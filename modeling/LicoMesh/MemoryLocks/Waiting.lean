import LicoMesh.MemoryLocks.Manager

namespace LicoMesh.MemoryLocks

open List Function

def MemoryWaiter.waitsFor (waiter : MemoryWaiter) (key : String) : Bool :=
  waiter.active && waiter.lockKey = key

open MemoryWaiter

namespace MemoryLockManager

open Function (update)
open Library

/-! Who waits for a key: the active waiters, in the order of their arrival, are what the queue of the
key holds. -/

variable (s : MemoryLockManager)

def waiting (key : String) : List Nat :=
  (range s.waiterCount).filter fun waiter => (s.waiters waiter).waitsFor key

def links (queue : Nat) : LinkedList Nat := linksOf s.nodes (s.queueObjects queue)

structure Queued : Prop where
  placed : ∀ waiter, (s.waiters waiter).active = true → waiter < s.waiterCount ∧
    s.queues.lookup (s.waiters waiter).lockKey = some (s.waiters waiter).queue ∧
    s.nodes.queue waiter = some (s.waiters waiter).queue
  idle : ∀ waiter, (s.waiters waiter).active = false → s.nodes.queue waiter = none
  holds : ∀ key queue, s.queues.lookup key = some queue → (s.links queue).Holds (s.waiting key) ∧
      (s.queueObjects queue).size = (s.waiting key).length
  numbered : ∀ key queue, s.queues.lookup key = some queue → queue < s.queueCount
  distinct : ∀ key other queue, s.queues.lookup key = some queue →
    s.queues.lookup other = some queue → key = other

variable {s} {key : String} {queue waiter : Nat}

theorem mem_waiting : waiter ∈ s.waiting key ↔ waiter < s.waiterCount ∧
    (s.waiters waiter).active = true ∧ (s.waiters waiter).lockKey = key := by
  simp [waiting, waitsFor]

theorem nodup_waiting : (s.waiting key).Nodup := nodup_range.filter _

variable (queued : s.Queued)
include queued

theorem Queued.mem_waiting_iff : waiter ∈ s.waiting key ↔
    (s.waiters waiter).active = true ∧ (s.waiters waiter).lockKey = key := by
  rw [mem_waiting]
  exact ⟨And.right, fun active => ⟨(queued.placed waiter active.1).1, active⟩⟩

theorem Queued.waiting_eq_nil (none : s.queues.lookup key = none) : s.waiting key = [] := by
  rw [eq_nil_iff_forall_not_mem]
  intro waiter member
  obtain ⟨active, rfl⟩ := queued.mem_waiting_iff.mp member
  rw [(queued.placed waiter active).2.1] at none
  cases none

omit queued

theorem waiting_unqueue (other : String) (queue waiter : Nat) :
    (s.unqueue queue waiter).waiting other =
      (s.waiting other).filter fun member => member ≠ waiter := by
  unfold waiting unqueue
  rw [filter_filter]
  congr 1
  funext member
  by_cases same : member = waiter
  · simp [same, waitsFor]
  · simp [same]

theorem waiting_leaveQueue (key other : String) (queue waiter : Nat) :
    (s.leaveQueue key queue waiter).waiting other =
      (s.waiting other).filter fun member => member ≠ waiter := by
  rw [← waiting_unqueue other queue waiter, leaveQueue]
  split <;> rfl

theorem links_remove {nodes : WaitNodes} (inside : nodes.queue waiter = some queue) :
    linksOf (object.remove queue nodes waiter).1 (object.remove queue nodes waiter).2 =
      (linksOf nodes object).unlink waiter := by
  rw [IntrusiveWaitQueue.remove, if_pos inside]
  rfl

include queued

theorem Queued.eraseQueue (nobody : s.waiting key = []) : (s.eraseQueue key).Queued := by
  have kept : ∀ other queue, (s.queues.erase key).lookup other = some queue →
      other ≠ key ∧ s.queues.lookup other = some queue := by
    intro other queue found
    by_cases same : other = key
    · rw [same, AList.lookup_erase] at found
      cases found
    · rw [AList.lookup_erase_ne same] at found
      exact ⟨same, found⟩
  constructor
  case placed =>
    intro waiter active
    obtain ⟨bound, found, node⟩ := queued.placed waiter active
    refine ⟨bound, ?_, node⟩
    have other : (s.waiters waiter).lockKey ≠ key := by
      intro same
      have member := queued.mem_waiting_iff.mpr ⟨active, same⟩
      rw [nobody] at member
      exact absurd member not_mem_nil
    exact (AList.lookup_erase_ne other).trans found
  case idle => exact queued.idle
  case holds => exact fun other queue found => queued.holds other queue (kept other queue found).2
  case numbered =>
    exact fun other queue found => queued.numbered other queue (kept other queue found).2
  case distinct =>
    intro first second queue found found'
    exact queued.distinct first second queue (kept first queue found).2 (kept second queue found').2

theorem Queued.unqueue (active : (s.waiters waiter).active = true)
    (sameQueue : (s.waiters waiter).queue = queue) : (s.unqueue queue waiter).Queued := by
  obtain ⟨bound, found, node⟩ := queued.placed waiter active
  rw [sameQueue] at found node
  obtain ⟨holds, size⟩ := queued.holds _ queue found
  have member : waiter ∈ s.waiting (s.waiters waiter).lockKey :=
    queued.mem_waiting_iff.mpr ⟨active, rfl⟩
  obtain ⟨before, after, whole⟩ := append_of_mem member
  have nodup : (before ++ waiter :: after).Nodup := whole ▸ nodup_waiting
  have rest : (s.waiting (s.waiters waiter).lockKey).filter (fun member => member ≠ waiter) =
      before ++ after := by
    rw [whole, filter_append, filter_cons_of_neg (by simp),
      filter_eq_self.mpr (by grind), filter_eq_self.mpr (by grind)]
  have nodes : (s.unqueue queue waiter).nodes =
      ((s.queueObjects queue).remove queue s.nodes waiter).1 := rfl
  constructor
  case placed =>
    intro other otherActive
    have different : other ≠ waiter := by
      rintro rfl
      simp [MemoryLockManager.unqueue] at otherActive
    have waiters : (s.unqueue queue waiter).waiters other = s.waiters other :=
      update_of_ne different _ _
    rw [waiters] at otherActive ⊢
    obtain ⟨otherBound, otherFound, otherNode⟩ := queued.placed other otherActive
    refine ⟨otherBound, otherFound, ?_⟩
    rw [nodes, IntrusiveWaitQueue.remove, if_pos node]
    exact (update_of_ne different _ _).trans otherNode
  case idle =>
    intro other inactive
    rw [nodes, IntrusiveWaitQueue.remove, if_pos node]
    by_cases same : other = waiter
    · rw [same]
      exact update_self ..
    · simp only [MemoryLockManager.unqueue, update_of_ne same] at inactive
      exact (update_of_ne same _ _).trans (queued.idle other inactive)
  case holds =>
    intro other otherQueue otherFound
    rw [waiting_unqueue]
    by_cases same : other = (s.waiters waiter).lockKey
    · subst same
      obtain rfl : queue = otherQueue := Option.some.inj (found.symm.trans otherFound)
      have object : (s.unqueue queue waiter).queueObjects queue =
          ((s.queueObjects queue).remove queue s.nodes waiter).2 := update_self ..
      rw [rest, links, object, nodes, links_remove node]
      refine ⟨.unlink (whole ▸ holds), ?_⟩
      rw [IntrusiveWaitQueue.remove, if_pos node]
      rw [size, whole]
      simp
    · have apart : otherQueue ≠ queue := by
        rintro rfl
        exact same (queued.distinct other _ otherQueue otherFound found)
      obtain ⟨otherHolds, otherSize⟩ := queued.holds other otherQueue otherFound
      have elsewhere : ∀ member ∈ s.waiting other, member ∉ before ++ waiter :: after := by
        intro member memberOther inside
        rw [← whole] at inside
        have first := (queued.mem_waiting_iff.mp memberOther).2
        rw [(queued.mem_waiting_iff.mp inside).2] at first
        exact same first.symm
      have kept : (s.waiting other).filter (fun member => member ≠ waiter) = s.waiting other := by
        rw [filter_eq_self]
        intro member memberOther
        have outside := elsewhere member memberOther
        simp only [mem_append, mem_cons, not_or] at outside
        simpa using outside.2.1
      have object : (s.unqueue queue waiter).queueObjects otherQueue =
          s.queueObjects otherQueue := update_of_ne apart _ _
      rw [kept, links, object, nodes]
      refine ⟨otherHolds.congr rfl rfl ?_ ?_, otherSize⟩
      · intro member memberOther
        rw [IntrusiveWaitQueue.remove, if_pos node]
        exact (LinkedList.Holds.unlink_next_other (whole ▸ holds) (elsewhere member memberOther))
      · intro member memberOther
        rw [IntrusiveWaitQueue.remove, if_pos node]
        exact (LinkedList.Holds.unlink_previous_other (whole ▸ holds)
          (elsewhere member memberOther))
  case numbered => exact queued.numbered
  case distinct => exact queued.distinct

theorem Queued.leaveQueue (active : (s.waiters waiter).active = true)
    (sameKey : (s.waiters waiter).lockKey = key) (sameQueue : (s.waiters waiter).queue = queue) :
    (s.leaveQueue key queue waiter).Queued := by
  have left := queued.unqueue active sameQueue
  rw [MemoryLockManager.leaveQueue]
  split
  · rename_i empty
    apply left.eraseQueue
    obtain ⟨_, found, _⟩ := queued.placed waiter active
    rw [sameKey, sameQueue] at found
    have size := (left.holds key queue found).2
    rw [empty] at size
    exact length_eq_zero_iff.mp size.symm
  · exact left

theorem Queued.queueFor (key : String) : (s.queueFor key).1.Queued ∧
      (s.queueFor key).1.queues.lookup key = some (s.queueFor key).2 := by
  unfold MemoryLockManager.queueFor
  split
  · rename_i queue found
    exact ⟨queued, found⟩
  · rename_i none
    refine ⟨?_, AList.lookup_insert _⟩
    have cases_of : ∀ other queue, (s.queues.insert key s.queueCount).lookup other = some queue →
        (other = key ∧ queue = s.queueCount) ∨
          (other ≠ key ∧ queue ≠ s.queueCount ∧ s.queues.lookup other = some queue) := by
      intro other queue found
      by_cases same : other = key
      · rw [same, AList.lookup_insert] at found
        exact .inl ⟨same, (Option.some.inj found).symm⟩
      · rw [AList.lookup_insert_ne same] at found
        exact .inr ⟨same, Nat.ne_of_lt (queued.numbered other queue found), found⟩
    constructor
    case placed =>
      intro waiter active
      obtain ⟨bound, found, node⟩ := queued.placed waiter active
      have other : (s.waiters waiter).lockKey ≠ key := by
        intro same
        rw [same, none] at found
        cases found
      exact ⟨bound, (AList.lookup_insert_ne other).trans found, node⟩
    case idle => exact queued.idle
    case holds =>
      intro other queue found
      obtain ⟨rfl, rfl⟩ | ⟨_, different, old⟩ := cases_of other queue found
      · have nobody : s.waiting other = [] := queued.waiting_eq_nil none
        have object : ∀ objects : Nat → IntrusiveWaitQueue,
            update objects s.queueCount .new s.queueCount = .new := fun _ => update_self ..
        dsimp only [links]
        rw [object]
        exact ⟨nobody ▸ .empty rfl rfl, congrArg length nobody.symm⟩
      · dsimp only [links]
        rw [update_of_ne different]
        exact queued.holds other queue old
    case numbered =>
      intro other queue found
      obtain ⟨_, rfl⟩ | ⟨_, _, old⟩ := cases_of other queue found
      · exact Nat.lt_succ_self _
      · exact Nat.lt_succ_of_lt (queued.numbered other queue old)
    case distinct =>
      intro first second queue found found'
      obtain ⟨rfl, rfl⟩ | ⟨_, different, old⟩ := cases_of first queue found <;>
        obtain ⟨rfl, same⟩ | ⟨_, different', old'⟩ := cases_of second _ found'
      · rfl
      · exact absurd rfl different'
      · exact absurd same different
      · exact queued.distinct first second queue old old'

omit queued

theorem waiting_enqueue (key other : String) (queue : Nat) (ttlMs waitMs : Int) :
    (s.enqueue key queue ttlMs waitMs).waiting other =
      s.waiting other ++ if other = key then [s.waiterCount] else [] := by
  unfold waiting enqueue
  dsimp only
  rw [range_succ, filter_append]
  congr 1
  · apply filter_congr
    intro member earlier
    rw [update_of_ne (Nat.ne_of_lt (mem_range.mp earlier))]
  · by_cases same : other = key
    · simp [same, waitsFor]
    · simp [same, Ne.symm same, waitsFor]

include queued in
theorem Queued.enqueue (found : s.queues.lookup key = some queue)
    (ttlMs waitMs : Int) : (s.enqueue key queue ttlMs waitMs).Queued := by
  obtain ⟨holds, size⟩ := queued.holds key queue found
  have fresh : ∀ other, s.waiterCount ∉ s.waiting other :=
    fun other member => Nat.lt_irrefl _ (mem_waiting.mp member).1
  have waiters : ∀ other, other ≠ s.waiterCount →
      (s.enqueue key queue ttlMs waitMs).waiters other = s.waiters other :=
    fun other different => update_of_ne different _ _
  have newest : (s.enqueue key queue ttlMs waitMs).waiters s.waiterCount =
      ⟨key, queue, true, ttlMs, waitMs⟩ := update_self ..
  have nodes : ∀ other, other ≠ s.waiterCount →
      (s.enqueue key queue ttlMs waitMs).nodes.queue other = s.nodes.queue other :=
    fun other different => update_of_ne different _ _
  constructor
  case placed =>
    intro other active
    by_cases same : other = s.waiterCount
    · rw [same, newest]
      exact ⟨Nat.lt_succ_self _, found, update_self ..⟩
    · rw [waiters other same] at active ⊢
      obtain ⟨bound, otherFound, node⟩ := queued.placed other active
      exact ⟨Nat.lt_succ_of_lt bound, otherFound, (nodes other same).trans node⟩
  case idle =>
    intro other inactive
    have different : other ≠ s.waiterCount := by
      rintro rfl
      rw [newest] at inactive
      cases inactive
    rw [waiters other different] at inactive
    exact (nodes other different).trans (queued.idle other inactive)
  case holds =>
    intro other otherQueue otherFound
    rw [waiting_enqueue]
    by_cases same : other = key
    · subst same
      obtain rfl : queue = otherQueue := Option.some.inj (found.symm.trans otherFound)
      have object : (s.enqueue other queue ttlMs waitMs).queueObjects queue =
          ((s.queueObjects queue).push queue s.nodes s.waiterCount).2 := update_self ..
      rw [if_pos rfl, links, object]
      refine ⟨holds.push (fresh other), ?_⟩
      rw [length_append, ← size]
      rfl
    · have apart : otherQueue ≠ queue := by
        rintro rfl
        exact same (queued.distinct other key otherQueue otherFound found)
      obtain ⟨otherHolds, otherSize⟩ := queued.holds other otherQueue otherFound
      have object : (s.enqueue key queue ttlMs waitMs).queueObjects otherQueue =
          s.queueObjects otherQueue := update_of_ne apart _ _
      rw [if_neg same, append_nil, links, object]
      refine ⟨otherHolds.congr rfl rfl ?_ ?_, otherSize⟩
      · intro member inside
        apply holds.push_next_other
        · rintro rfl
          exact fresh other inside
        · intro insideKey
          have first := (mem_waiting.mp inside).2.2
          rw [(mem_waiting.mp insideKey).2.2] at first
          exact same first.symm
      · intro member inside
        apply LinkedList.push_previous_other
        rintro rfl
        exact fresh other inside
  case numbered => exact queued.numbered
  case distinct => exact queued.distinct

end MemoryLockManager

end LicoMesh.MemoryLocks

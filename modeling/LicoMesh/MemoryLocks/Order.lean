import LicoMesh.MemoryLocks.Waiting

namespace LicoMesh.MemoryLocks.MemoryLockManager

open List

open Function (update)

/-! The order in which waiters are given their key, and the counts of the manager. -/

variable (s : MemoryLockManager)

def answered : List Nat := s.grants.map Prod.fst ++ s.rejections.map Prod.fst

def arrived (key : String) : List Nat :=
  (range s.waiterCount).filter fun waiter =>
    (s.waiters waiter).lockKey = key && !(s.rejections.map Prod.fst).contains waiter

def granted (key : String) : List Nat :=
  (s.grants.map Prod.fst).filter fun waiter => (s.waiters waiter).lockKey = key

def activeCount : Nat :=
  ((range s.waiterCount).filter fun waiter => (s.waiters waiter).active).length

structure Ledger : Prop where
  count : s.metrics.currentWaiting = s.activeCount
  order : ∀ key, s.arrived key = s.granted key ++ s.waiting key
  once : s.answered.Nodup
  settled : ∀ waiter ∈ s.answered, waiter < s.waiterCount ∧ (s.waiters waiter).active = false

structure SameQueues (t : MemoryLockManager) : Prop where
  waiters : t.waiters = s.waiters
  waiterCount : t.waiterCount = s.waiterCount
  nodes : t.nodes = s.nodes
  queueObjects : t.queueObjects = s.queueObjects
  queueCount : t.queueCount = s.queueCount
  queues : t.queues = s.queues
  currentWaiting : t.metrics.currentWaiting = s.metrics.currentWaiting
  grants : t.grants = s.grants
  rejections : t.rejections = s.rejections

variable {s} {t : MemoryLockManager} {key : String} {queue waiter : Nat}

theorem SameQueues.waiting (same : s.SameQueues t) : t.waiting key = s.waiting key := by
  rw [MemoryLockManager.waiting, MemoryLockManager.waiting, same.waiters, same.waiterCount]

theorem Queued.same (queued : s.Queued) (same : s.SameQueues t) : t.Queued where
  placed := by
    rw [same.waiters, same.waiterCount, same.queues, same.nodes]
    exact queued.placed
  idle := by
    rw [same.waiters, same.nodes]
    exact queued.idle
  holds := by
    simp only [same.waiting, links, same.nodes, same.queueObjects, same.queues]
    exact queued.holds
  numbered := by
    rw [same.queues, same.queueCount]
    exact queued.numbered
  distinct := by
    rw [same.queues]
    exact queued.distinct

variable (ledger : s.Ledger)

include ledger in
theorem Ledger.same (same : s.SameQueues t) : t.Ledger where
  count := by
    rw [activeCount, same.currentWaiting, same.waiters, same.waiterCount]
    exact ledger.count
  order := by
    simp only [same.waiting, arrived, granted, same.waiters, same.waiterCount, same.grants,
      same.rejections]
    exact ledger.order
  once := by
    rw [answered, same.grants, same.rejections]
    exact ledger.once
  settled := by
    rw [answered, same.grants, same.rejections, same.waiters, same.waiterCount]
    exact ledger.settled

theorem leaveQueue_lockKey (other : Nat) :
    ((s.leaveQueue key queue waiter).waiters other).lockKey = (s.waiters other).lockKey := by
  have unqueued : ((s.unqueue queue waiter).waiters other).lockKey =
      (s.waiters other).lockKey := by
    rw [unqueue]
    dsimp only
    by_cases same : other = waiter
    · simp [same]
    · rw [Function.update_of_ne same]
  rw [← unqueued, leaveQueue]
  split <;> rfl

theorem leaveQueue_active (other : Nat) : ((s.leaveQueue key queue waiter).waiters other).active =
      ((s.waiters other).active && other ≠ waiter) := by
  have unqueued : ((s.unqueue queue waiter).waiters other).active =
      ((s.waiters other).active && other ≠ waiter) := by
    rw [unqueue]
    by_cases same : other = waiter
    · simp [same]
    · simp [same]
  rw [← unqueued, leaveQueue]
  split <;> rfl

theorem leaveQueue_fields : (s.leaveQueue key queue waiter).waiterCount = s.waiterCount ∧
    (s.leaveQueue key queue waiter).grants = s.grants ∧
    (s.leaveQueue key queue waiter).rejections = s.rejections ∧
    (s.leaveQueue key queue waiter).locks = s.locks ∧ (s.leaveQueue key queue waiter).metrics =
      { s.metrics with currentWaiting := max 0 (s.metrics.currentWaiting - 1) } := by
  rw [leaveQueue]
  split <;> exact ⟨rfl, rfl, rfl, rfl, rfl⟩

theorem activeCount_leaveQueue (bound : waiter < s.waiterCount)
    (active : (s.waiters waiter).active = true) :
    (s.leaveQueue key queue waiter).activeCount + 1 = s.activeCount := by
  have left : ((range s.waiterCount).filter fun other =>
      ((s.leaveQueue key queue waiter).waiters other).active) =
        ((range s.waiterCount).filter fun other => (s.waiters other).active).erase waiter := by
    rw [(nodup_range.filter _).erase_eq_filter, filter_filter]
    congr 1
    funext other
    rw [leaveQueue_active, Bool.and_comm]
    congr 1
    exact Bool.eq_iff_iff.mpr (by simp)
  have member : waiter ∈ (range s.waiterCount).filter fun other => (s.waiters other).active :=
    mem_filter.mpr ⟨mem_range.mpr bound, active⟩
  rw [activeCount, leaveQueue_fields.1, left, length_erase_of_mem member, activeCount]
  have positive := length_pos_of_mem member
  omega

include ledger

theorem Ledger.count_leaveQueue (bound : waiter < s.waiterCount)
    (active : (s.waiters waiter).active = true) :
    (s.leaveQueue key queue waiter).metrics.currentWaiting =
      (s.leaveQueue key queue waiter).activeCount := by
  have fewer : (s.leaveQueue key queue waiter).activeCount + 1 = s.activeCount :=
    activeCount_leaveQueue bound active
  rw [leaveQueue_fields.2.2.2.2]
  dsimp only
  rw [ledger.count]
  omega

theorem Ledger.unanswered (active : (s.waiters waiter).active = true) : waiter ∉ s.answered := by
  intro member
  rw [(ledger.settled waiter member).2] at active
  cases active

theorem Ledger.reject (bound : waiter < s.waiterCount) (active : (s.waiters waiter).active = true)
    (error : LockError) : (s.reject waiter error).Ledger := by
  have unanswered := ledger.unanswered active
  obtain ⟨count, grants, rejections, _⟩ :=
    @leaveQueue_fields s (s.waiters waiter).lockKey (s.waiters waiter).queue waiter
  have answered_eq : (s.reject waiter error).answered = s.answered ++ [waiter] := by
    rw [answered, answered, MemoryLockManager.reject]
    rw [grants]
    simp
  constructor
  case count => exact ledger.count_leaveQueue bound active
  case order =>
    intro key
    have waiting : (s.reject waiter error).waiting key =
        (s.waiting key).filter fun member => member ≠ waiter := waiting_leaveQueue ..
    have arrived_eq : (s.reject waiter error).arrived key =
        (s.arrived key).filter fun member => member ≠ waiter := by
      rw [arrived, arrived, filter_filter, MemoryLockManager.reject]
      rw [count]
      congr 1
      funext other
      rw [leaveQueue_lockKey]
      by_cases same : other = waiter
      · simp [same]
      · have kept : ((s.rejections ++ [(waiter, error)]).map Prod.fst).contains other =
            (s.rejections.map Prod.fst).contains other := Bool.eq_iff_iff.mpr (by simp [same])
        rw [kept]
        simp [same]
    have granted_eq : (s.reject waiter error).granted key =
        (s.granted key).filter fun member => member ≠ waiter := by
      have kept : (s.granted key).filter (fun member => member ≠ waiter) = s.granted key := by
        rw [filter_eq_self]
        intro member given
        rw [decide_eq_true_eq]
        rintro rfl
        exact unanswered (mem_append_left _ (mem_of_mem_filter given))
      rw [kept, granted, granted, MemoryLockManager.reject]
      rw [grants]
      simp only [leaveQueue_lockKey]
    rw [arrived_eq, granted_eq, waiting, ledger.order, filter_append]
  case once =>
    rw [answered_eq]
    exact nodup_append.mpr ⟨ledger.once, by simp, by grind⟩
  case settled =>
    intro member answeredNow
    have active_eq : ((s.reject waiter error).waiters member).active =
        ((s.waiters member).active && member ≠ waiter) := leaveQueue_active member
    have count_eq : (s.reject waiter error).waiterCount = s.waiterCount := count
    rw [active_eq, count_eq]
    rw [answered_eq, mem_append, mem_singleton] at answeredNow
    obtain before | rfl := answeredNow
    · obtain ⟨small, inactive⟩ := ledger.settled member before
      exact ⟨small, by rw [inactive]; rfl⟩
    · exact ⟨bound, by simp⟩

theorem Ledger.grant (first : s.waiting key = waiter :: rest) :
    (s.grant key queue waiter).Ledger := by
  obtain ⟨bound, active, sameKey⟩ := mem_waiting.mp (first ▸ mem_cons_self)
  have unanswered := ledger.unanswered active
  obtain ⟨count, grants, rejections, _⟩ := @leaveQueue_fields s key queue waiter
  have answered_perm : (s.grant key queue waiter).answered.Perm (waiter :: s.answered) := by
    rw [answered, answered, MemoryLockManager.grant]
    dsimp only [createLockHandle]
    rw [rejections, map_append, append_assoc]
    exact perm_middle
  constructor
  case count => exact ledger.count_leaveQueue bound active
  case order =>
    intro other
    have waiting : (s.grant key queue waiter).waiting other =
        (s.waiting other).filter fun member => member ≠ waiter := waiting_leaveQueue ..
    have arrived_eq : (s.grant key queue waiter).arrived other = s.arrived other := by
      rw [arrived, arrived, MemoryLockManager.grant]
      dsimp only [createLockHandle]
      rw [count, rejections]
      simp only [leaveQueue_lockKey]
    have granted_eq : (s.grant key queue waiter).granted other =
        s.granted other ++ if other = key then [waiter] else [] := by
      rw [granted, granted, MemoryLockManager.grant]
      dsimp only [createLockHandle]
      simp only [leaveQueue_lockKey]
      by_cases same : other = key
      · simp [same, sameKey]
      · simp [same, sameKey, Ne.symm same]
    rw [arrived_eq, granted_eq, waiting, ledger.order]
    by_cases same : other = key
    · have nodup : (waiter :: rest).Nodup := first ▸ nodup_waiting
      rw [same, if_pos rfl, first, filter_cons_of_neg (by simp),
        filter_eq_self.mpr (by grind), append_assoc]
      rfl
    · rw [if_neg same, append_nil, filter_eq_self.mpr]
      intro member inside
      rw [decide_eq_true_eq]
      rintro rfl
      exact same ((mem_waiting.mp inside).2.2.symm.trans sameKey)
  case once => exact answered_perm.nodup_iff.mpr (nodup_cons.mpr ⟨unanswered, ledger.once⟩)
  case settled =>
    intro member answeredNow
    have active_eq : ((s.grant key queue waiter).waiters member).active =
        ((s.waiters member).active && member ≠ waiter) := leaveQueue_active member
    have count_eq : (s.grant key queue waiter).waiterCount = s.waiterCount := count
    rw [active_eq, count_eq]
    obtain rfl | before := mem_cons.mp (answered_perm.mem_iff.mp answeredNow)
    · exact ⟨bound, by simp⟩
    · obtain ⟨small, inactive⟩ := ledger.settled member before
      exact ⟨small, by rw [inactive]; rfl⟩

theorem Ledger.enqueue (ttlMs waitMs : Int) : (s.enqueue key queue ttlMs waitMs).Ledger := by
  have waiters : ∀ other, other < s.waiterCount →
      (s.enqueue key queue ttlMs waitMs).waiters other = s.waiters other :=
    fun other earlier => Function.update_of_ne (Nat.ne_of_lt earlier) _ _
  have newest : (s.enqueue key queue ttlMs waitMs).waiters s.waiterCount =
      ⟨key, queue, true, ttlMs, waitMs⟩ := Function.update_self ..
  have earlier : ∀ member ∈ s.answered, member < s.waiterCount :=
    fun member answered => (ledger.settled member answered).1
  constructor
  case count =>
    have more : (s.enqueue key queue ttlMs waitMs).activeCount = s.activeCount + 1 := by
      have old : ((range s.waiterCount).filter fun other =>
          ((s.enqueue key queue ttlMs waitMs).waiters other).active) =
            (range s.waiterCount).filter fun other => (s.waiters other).active :=
        filter_congr fun other inside => by rw [waiters other (mem_range.mp inside)]
      have counts : (s.enqueue key queue ttlMs waitMs).waiterCount = s.waiterCount + 1 := rfl
      rw [activeCount, counts, range_succ, filter_append, old]
      simp [newest, activeCount]
    have metric : (s.enqueue key queue ttlMs waitMs).metrics.currentWaiting =
        s.metrics.currentWaiting + 1 := rfl
    rw [more, metric, ledger.count]
    omega
  case order =>
    intro other
    have counts : (s.enqueue key queue ttlMs waitMs).waiterCount = s.waiterCount + 1 := rfl
    have arrived_eq : (s.enqueue key queue ttlMs waitMs).arrived other =
        s.arrived other ++ if other = key then [s.waiterCount] else [] := by
      have fresh : s.waiterCount ∉ s.rejections.map Prod.fst := fun member =>
        Nat.lt_irrefl _ (earlier _ (mem_append_right _ member))
      have rejections : (s.enqueue key queue ttlMs waitMs).rejections = s.rejections := rfl
      rw [arrived, arrived, counts, range_succ, filter_append, rejections]
      congr 1
      · exact filter_congr fun member inside => by
          rw [waiters member (mem_range.mp inside)]
      · by_cases same : other = key
        · simp [same, newest, fresh]
        · simp [same, Ne.symm same, newest]
    have granted_eq : (s.enqueue key queue ttlMs waitMs).granted other = s.granted other := by
      exact filter_congr fun member inside => by
        rw [waiters member (earlier member (mem_append_left _ inside))]
    rw [arrived_eq, granted_eq, waiting_enqueue, ledger.order, append_assoc]
  case once => exact ledger.once
  case settled =>
    intro member answered
    obtain ⟨small, inactive⟩ := ledger.settled member answered
    rw [waiters member small]
    exact ⟨Nat.lt_succ_of_lt small, inactive⟩

end LicoMesh.MemoryLocks.MemoryLockManager

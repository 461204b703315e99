import LicoMesh.MemoryLocks.Order

namespace LicoMesh.MemoryLocks

open AList

open Library

variable {t : MemoryLockManager}

namespace MemoryLockManager

variable (s : MemoryLockManager)

structure Sound : Prop where
  queued : s.Queued
  ledger : s.Ledger
  active : s.metrics.currentActive = s.locks.keys.length
  held : ∀ key, s.waiting key ≠ [] → key ∈ s.locks

structure Promoting (key : String) : Prop where
  queued : s.Queued
  ledger : s.Ledger
  active : s.metrics.currentActive = s.locks.keys.length
  free : key ∉ s.locks
  held : ∀ other, other ≠ key → s.waiting other ≠ [] → other ∈ s.locks

variable {s} {key : String}

theorem Sound.dropLock (sound : s.Sound)
    (found : s.locks.lookup key = some handle) : (s.dropLock key handle).Promoting key := by
  have same : s.SameQueues (s.dropLock key handle) := ⟨rfl, rfl, rfl, rfl, rfl, rfl, rfl, rfl, rfl⟩
  have member : key ∈ s.locks := lookup_isSome.mp (by rw [found]; rfl)
  constructor
  case queued => exact sound.queued.same same
  case ledger => exact sound.ledger.same same
  case active =>
    have keys : (s.dropLock key handle).locks.keys = s.locks.keys.erase key := keys_erase ..
    have metric : (s.dropLock key handle).metrics.currentActive =
        s.metrics.currentActive - 1 := rfl
    have positive := List.length_pos_of_mem (mem_keys.mp member)
    rw [keys, metric, List.length_erase_of_mem (mem_keys.mp member), sound.active]
    omega
  case free =>
    intro kept
    exact (mem_erase.mp kept).1 rfl
  case held =>
    intro other different waits
    exact mem_erase.mpr ⟨different, sound.held other waits⟩

theorem Promoting.same (promoting : s.Promoting key) (same : s.SameQueues t)
    (locks : t.locks = s.locks) (active : t.metrics.currentActive = s.metrics.currentActive) :
    t.Promoting key where
  queued := promoting.queued.same same
  ledger := promoting.ledger.same same
  active := by
    rw [active, locks]
    exact promoting.active
  free := by
    rw [locks]
    exact promoting.free
  held := by
    simp only [same.waiting, locks]
    exact promoting.held

theorem Sound.same (sound : s.Sound) (same : s.SameQueues t) (locks : t.locks = s.locks)
    (active : t.metrics.currentActive = s.metrics.currentActive) : t.Sound where
  queued := sound.queued.same same
  ledger := sound.ledger.same same
  active := by
    rw [active, locks]
    exact sound.active
  held := by
    simp only [same.waiting, locks]
    exact sound.held

theorem Promoting.sound (promoting : s.Promoting key) (nobody : s.waiting key = []) : s.Sound where
  queued := promoting.queued
  ledger := promoting.ledger
  active := promoting.active
  held := by
    intro other waits
    refine promoting.held other ?_ waits
    rintro rfl
    exact waits nobody

theorem createLockHandle_active {ttlMs : Int} (free : key ∉ s.locks)
    (active : s.metrics.currentActive = s.locks.keys.length) :
    (s.createLockHandle key ttlMs).metrics.currentActive =
      (s.createLockHandle key ttlMs).locks.keys.length := by
  have keys : (s.createLockHandle key ttlMs).locks.keys = key :: s.locks.keys.erase key :=
    keys_insert _
  have metric : (s.createLockHandle key ttlMs).metrics.currentActive =
      s.metrics.currentActive + 1 := rfl
  rw [keys, metric, List.erase_of_not_mem free, active]
  simp

theorem Promoting.grant (promoting : s.Promoting key) (found : s.queues.lookup key = some queue)
    (first : s.waiting key = waiter :: rest) : (s.grant key queue waiter).Sound := by
  obtain ⟨_, active, sameKey⟩ := mem_waiting.mp (first ▸ List.mem_cons_self)
  obtain ⟨_, inQueue, _⟩ := promoting.queued.placed waiter active
  rw [sameKey, found] at inQueue
  obtain ⟨_, grants, _, locks, metrics⟩ := @leaveQueue_fields s key queue waiter
  have left := promoting.queued.leaveQueue active sameKey (Option.some.inj inQueue).symm
  have queued : ((s.leaveQueue key queue waiter).createLockHandle key
      (s.waiters waiter).ttlMs).Queued := left.same ⟨rfl, rfl, rfl, rfl, rfl, rfl, rfl, rfl, rfl⟩
  constructor
  case queued => exact ⟨queued.placed, queued.idle, queued.holds, queued.numbered, queued.distinct⟩
  case ledger => exact promoting.ledger.grant first
  case active =>
    refine @createLockHandle_active (s.leaveQueue key queue waiter) key (s.waiters waiter).ttlMs ?_ ?_
    · rw [locks]
      exact promoting.free
    · rw [locks, metrics]
      exact promoting.active
  case held =>
    intro other waits
    have inserted : ∀ lock, lock = key ∨ lock ∈ s.locks →
        lock ∈ (s.grant key queue waiter).locks := by
      intro lock inside
      have whole : (s.grant key queue waiter).locks = s.locks.insert key s.handleCount := by
        dsimp only [MemoryLockManager.grant, createLockHandle, leaveQueue]
        split <;> rfl
      rw [whole]
      exact (mem_insert _).mpr inside
    have waiting : (s.grant key queue waiter).waiting other =
        (s.waiting other).filter fun member => member ≠ waiter := waiting_leaveQueue ..
    by_cases same : other = key
    · exact inserted other (.inl same)
    · refine inserted other (.inr (promoting.held other same fun none => waits ?_))
      rw [waiting, none]
      rfl

theorem Promoting.promoteNext (promoting : s.Promoting key) : (s.promoteNext key).Sound := by
  unfold MemoryLockManager.promoteNext
  split
  · rename_i none
    exact promoting.sound (promoting.queued.waiting_eq_nil none)
  · rename_i queue found
    obtain ⟨holds, size⟩ := promoting.queued.holds key queue found
    unfold promoteLoop
    cases waiting : s.waiting key with
    | nil =>
      rw [if_pos (by rw [size, waiting]; rfl)]
      have ledger := promoting.ledger
      exact ⟨promoting.queued.eraseQueue waiting,
        ⟨ledger.count, ledger.order, ledger.once, ledger.settled⟩, promoting.active,
        (promoting.sound waiting).held⟩
    | cons waiter rest =>
      have head : (s.queueObjects queue).head = some waiter := by
        rw [waiting] at holds
        exact holds.head
      have active := (mem_waiting.mp (waiting ▸ List.mem_cons_self)).2.1
      rw [if_neg (by rw [size, waiting]; simp), head]
      dsimp only
      rw [if_pos active]
      exact promoting.grant found waiting

section

variable (sound : s.Sound)
include sound

theorem Sound.expireHandle (key : String) (handle : Nat) : (s.expireHandle key handle).Sound := by
  rw [MemoryLockManager.expireHandle]
  split
  · rename_i found
    have counted : (s.dropLock key handle).countExpired.Promoting key :=
      (sound.dropLock found).same ⟨rfl, rfl, rfl, rfl, rfl, rfl, rfl, rfl, rfl⟩ rfl rfl
    exact counted.promoteNext
  · exact sound

theorem Sound.expireExisting (key : String) : (s.expireExisting key).Sound := by
  rw [MemoryLockManager.expireExisting]
  split
  · exact sound
  · split
    · exact sound.expireHandle key _
    · exact sound

theorem Sound.queueFor (key : String) : (s.queueFor key).1.Sound := by
  have queued := (sound.queued.queueFor key).1
  have ledger := sound.ledger
  unfold MemoryLockManager.queueFor at queued ⊢
  split at queued
  · exact sound
  · exact ⟨queued, ⟨ledger.count, ledger.order, ledger.once, ledger.settled⟩, sound.active,
      sound.held⟩

theorem Sound.enqueue (found : s.queues.lookup key = some queue)
    (held : key ∈ s.locks) (ttlMs waitMs : Int) : (s.enqueue key queue ttlMs waitMs).Sound where
  queued := sound.queued.enqueue found ttlMs waitMs
  ledger := sound.ledger.enqueue ttlMs waitMs
  active := sound.active
  held := by
    intro other waits
    rw [waiting_enqueue] at waits
    by_cases same : other = key
    · rw [same]
      exact held
    · rw [if_neg same, List.append_nil] at waits
      exact sound.held other waits

theorem Sound.createLockHandle (free : key ∉ s.locks) (ttlMs : Int) :
    (s.createLockHandle key ttlMs).Sound where
  queued := sound.queued.same ⟨rfl, rfl, rfl, rfl, rfl, rfl, rfl, rfl, rfl⟩
  ledger := sound.ledger.same ⟨rfl, rfl, rfl, rfl, rfl, rfl, rfl, rfl, rfl⟩
  active := createLockHandle_active free sound.active
  held := fun other waits => (mem_insert _).mpr (.inr (sound.held other waits))

end

theorem queueFor_locks (key : String) : (s.queueFor key).1.locks = s.locks := by
  rw [queueFor]
  split <;> rfl

section

variable (sound : s.Sound)
include sound

theorem Sound.acquireKey (key : String) (ttlMs waitMs : Int) :
    (s.acquireKey key ttlMs waitMs).1.Sound := by
  have expired := sound.expireExisting key
  rw [MemoryLockManager.acquireKey]
  dsimp only
  split
  · rename_i present
    split
    · exact expired.same ⟨rfl, rfl, rfl, rfl, rfl, rfl, rfl, rfl, rfl⟩ rfl rfl
    · split
      · exact expired.queueFor key
      · refine (expired.queueFor key).enqueue (expired.queued.queueFor key).2 ?_ ttlMs waitMs
        rw [queueFor_locks]
        exact lookup_isSome.mp present
  · rename_i absent
    exact expired.createLockHandle (fun present => absent (lookup_isSome.mpr present)) ttlMs

theorem Sound.release (handle : Nat) : (s.release handle).1.Sound := by
  rw [MemoryLockManager.release]
  split
  · exact sound
  · split
    · exact sound
    · rename_i entry found
      split
      · exact sound
      · rename_i same
        rw [not_not] at same
        split
        · exact sound.expireHandle _ handle
        · rw [same] at found
          have counted : (s.dropLock (s.handles handle).lockKey handle).countReleased.Promoting
              (s.handles handle).lockKey :=
            (sound.dropLock found).same ⟨rfl, rfl, rfl, rfl, rfl, rfl, rfl, rfl, rfl⟩ rfl rfl
          exact counted.promoteNext

theorem Sound.setHandle (handle : Nat) (expiresAt : Int) (released : Bool) :
    (s.setHandle handle expiresAt released).Sound :=
  sound.same ⟨rfl, rfl, rfl, rfl, rfl, rfl, rfl, rfl, rfl⟩ rfl rfl

theorem Sound.heartbeat (handle : Nat) (extendMs : Option Duration) :
    (s.heartbeat handle extendMs).1.Sound := by
  rw [MemoryLockManager.heartbeat]
  split
  · exact sound
  · split
    · exact sound
    · split
      · exact sound.setHandle handle _ _
      · split
        · exact sound.expireHandle _ handle
        · exact sound.setHandle handle _ _

theorem Sound.reject (active : (s.waiters waiter).active = true)
    (error : LockError) : (s.reject waiter error).Sound := by
  have left := sound.queued.leaveQueue active rfl rfl
  obtain ⟨_, _, _, locks, metrics⟩ :=
    @leaveQueue_fields s (s.waiters waiter).lockKey (s.waiters waiter).queue waiter
  constructor
  case queued => exact ⟨left.placed, left.idle, left.holds, left.numbered, left.distinct⟩
  case ledger => exact sound.ledger.reject (sound.queued.placed waiter active).1 active error
  case active =>
    dsimp only [MemoryLockManager.reject]
    rw [locks, metrics]
    exact sound.active
  case held =>
    intro other waits
    have waiting : (s.reject waiter error).waiting other =
        (s.waiting other).filter fun member => member ≠ waiter := waiting_leaveQueue ..
    dsimp only [MemoryLockManager.reject]
    rw [locks]
    refine sound.held other fun none => waits ?_
    rw [waiting, none]
    rfl

end

end MemoryLockManager

open MemoryLockManager

theorem step_sound (s : MemoryLockManager) (event : Event) (sound : s.Sound) :
    (step s event).Sound := by
  cases event with
  | acquire key options =>
    rw [step, acquire]
    split
    · exact sound
    · exact sound.acquireKey _ _ _
  | release handle => exact sound.release handle
  | heartbeat handle extendMs => exact sound.heartbeat handle extendMs
  | isLocked key =>
    rw [step, isLocked]
    split
    · exact sound
    · exact sound.expireExisting _
  | expiry handle => exact sound.expireHandle _ handle
  | abort waiter =>
    rw [step, onAbort]
    split
    · rename_i active
      exact sound.reject active _
    · exact sound
  | deadline waiter =>
    rw [step, onDeadline]
    split
    · rename_i active
      exact (sound.reject active _).same ⟨rfl, rfl, rfl, rfl, rfl, rfl, rfl, rfl, rfl⟩ rfl rfl
    · exact sound
  | tick ms => exact sound.same ⟨rfl, rfl, rfl, rfl, rfl, rfl, rfl, rfl, rfl⟩ rfl rfl

theorem new_sound (config : LockManagerConfig) (clock : Int) : (new config clock).Sound := by
  have unmapped : ∀ key queue, (new config clock).queues.lookup key ≠ some queue :=
    fun key queue found => Option.some_ne_none queue (found.symm.trans (lookup_empty key))
  constructor
  case queued =>
    constructor
    case placed => exact fun waiter active => absurd active Bool.false_ne_true
    case idle => exact fun waiter inactive => rfl
    case holds => exact fun key queue found => absurd found (unmapped key queue)
    case numbered => exact fun key queue found => absurd found (unmapped key queue)
    case distinct => exact fun key other queue found => absurd found (unmapped key queue)
  case ledger =>
    constructor
    case count => rfl
    case order => exact fun key => rfl
    case once => exact List.nodup_nil
    case settled => exact fun waiter member => absurd member List.not_mem_nil
  case active => rfl
  case held => exact fun key waits => absurd rfl waits

theorem run_sound (config : LockManagerConfig) (clock : Int) (events : List Event) :
    (run config clock events).Sound :=
  runAll_invariant step_sound (new_sound config clock) events

def MemoryLockManager.QueueHolds (s : MemoryLockManager) (key : String) (waiting : List Nat) :
    Prop :=
  match s.queues.lookup key with
  | none => waiting = []
  | some queue =>
    (s.links queue).Holds waiting ∧ (s.queueObjects queue).size = waiting.length

structure MemoryLockManager.Fair (s : MemoryLockManager) : Prop where
  held : ∀ key queue, s.queues.lookup key = some queue → 0 < (s.queueObjects queue).size →
    key ∈ s.locks
  order : ∀ key, ∃ waiting, s.QueueHolds key waiting ∧ s.arrived key = s.granted key ++ waiting
  once : s.answered.Nodup
  currentActive : s.metrics.currentActive = s.locks.keys.length
  currentWaiting : s.metrics.currentWaiting =
    ((List.range s.waiterCount).filter fun waiter => (s.nodes.queue waiter).isSome).length

theorem MemoryLockManager.Sound.fair {s : MemoryLockManager} (sound : s.Sound) : s.Fair where
  held := by
    intro key queue found positive
    apply sound.held
    intro nobody
    rw [(sound.queued.holds key queue found).2, nobody] at positive
    exact absurd positive (Nat.lt_irrefl 0)
  order := by
    intro key
    refine ⟨s.waiting key, ?_, sound.ledger.order key⟩
    unfold QueueHolds
    split
    · rename_i none
      exact sound.queued.waiting_eq_nil none
    · rename_i queue found
      exact sound.queued.holds key queue found
  once := sound.ledger.once
  currentActive := sound.active
  currentWaiting := by
    rw [sound.ledger.count, activeCount]
    congr 3
    funext waiter
    cases active : (s.waiters waiter).active with
    | false => rw [sound.queued.idle waiter active]; rfl
    | true => rw [(sound.queued.placed waiter active).2.2]; rfl

/-- In every run the waiters of a key are served in the order in which they came. -/
theorem waiters_served_fairly (config : LockManagerConfig) (clock : Int) (events : List Event) :
    (run config clock events).Fair :=
  (run_sound config clock events).fair

end LicoMesh.MemoryLocks

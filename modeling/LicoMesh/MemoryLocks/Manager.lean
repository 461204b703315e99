import LicoMesh.Library.LinkedList
import LicoMesh.Library.Path
import LicoMesh.WorkQueue.Serialization
import Mathlib.Data.List.AList

namespace LicoMesh.MemoryLocks

open Function (update)
open Library WorkQueue

/-! The lock manager in memory. Queue objects, waiters and handles are numbered as they are made; a
handle's fencing token is its number. -/

/-- A number in milliseconds, or a value that is no finite number. -/
inductive Duration
  | finite (ms : Int)
  | other

inductive LockError
  | typeError (message : String)
  | acquireAborted (key : String)
  | timeout (key : String) (waitMs : Int)
  | queueFull (key : String) (maxQueueDepth : Nat)
  | fencing (key : String) (token : Nat)
  | released (key : String)

structure LockManagerConfig where
  defaultTtlMs : Int := 30000
  maxWaitMs : Int := 60000
  maxQueueDepth : Nat := 1000

def normalizeLockKey (key : String) : Except LockError String :=
  if toText key = "" then .error (.typeError "Lock key must be a non-empty string.")
  else .ok (toText key)

def positiveDuration (value : Option Duration) (fallback : Int) (label : String) :
    Except LockError Int :=
  match value.getD (.finite fallback) with
  | .finite ms =>
    if ms ≤ 0 then .error (.typeError (label ++ " must be a positive finite number."))
    else .ok ms
  | .other => .error (.typeError (label ++ " must be a positive finite number."))

def nonNegativeDuration (value : Option Duration) (fallback : Int) (label : String) :
    Except LockError Int :=
  match value.getD (.finite fallback) with
  | .finite ms =>
    if ms < 0 then .error (.typeError (label ++ " must be a non-negative finite number."))
    else .ok ms
  | .other => .error (.typeError (label ++ " must be a non-negative finite number."))

/-- The fields of the waiters that the queues use. -/
structure WaitNodes where
  previous : Nat → Option Nat
  next : Nat → Option Nat
  queue : Nat → Option Nat

structure IntrusiveWaitQueue where
  head : Option Nat
  tail : Option Nat
  size : Nat

def linksOf (nodes : WaitNodes) (queue : IntrusiveWaitQueue) : LinkedList Nat :=
  ⟨queue.head, queue.tail, nodes.next, nodes.previous⟩

namespace IntrusiveWaitQueue

def new : IntrusiveWaitQueue := ⟨none, none, 0⟩

/-- `push` to the queue object `self`. -/
def push (queue : IntrusiveWaitQueue) (self : Nat) (nodes : WaitNodes) (node : Nat) :
    WaitNodes × IntrusiveWaitQueue :=
  let links := (linksOf nodes queue).push node
  (⟨links.previous, links.next, update nodes.queue node (some self)⟩,
    ⟨links.head, links.tail, queue.size + 1⟩)

def remove (queue : IntrusiveWaitQueue) (self : Nat) (nodes : WaitNodes) (node : Nat) :
    WaitNodes × IntrusiveWaitQueue :=
  if nodes.queue node = some self then
    let links := (linksOf nodes queue).unlink node
    (⟨links.previous, links.next, update nodes.queue node none⟩,
      ⟨links.head, links.tail, queue.size - 1⟩)
  else (nodes, queue)

end IntrusiveWaitQueue

structure LockHandle where
  lockKey : String
  acquiredAt : Int
  expiresAt : Int
  released : Bool

structure MemoryWaiter where
  lockKey : String
  queue : Nat
  active : Bool
  ttlMs : Int
  waitMs : Int

structure LockManagerMetrics where
  totalAcquired : Nat
  totalReleased : Nat
  totalTimedOut : Nat
  totalExpired : Nat
  currentActive : Int
  currentWaiting : Int

abbrev KeyMap := AList fun _ : String => Nat

structure MemoryLockManager where
  config : LockManagerConfig
  clock : Int
  handles : Nat → LockHandle
  handleCount : Nat
  waiters : Nat → MemoryWaiter
  waiterCount : Nat
  nodes : WaitNodes
  queueObjects : Nat → IntrusiveWaitQueue
  queueCount : Nat
  locks : KeyMap
  queues : KeyMap
  metrics : LockManagerMetrics
  /-- The waiters that were given a handle, in this order. -/
  grants : List (Nat × Nat)
  rejections : List (Nat × LockError)

def MemoryLockManager.new (config : LockManagerConfig) (clock : Int) : MemoryLockManager where
  config := config
  clock := clock
  handles _ := ⟨"", 0, 0, true⟩
  handleCount := 0
  waiters _ := ⟨"", 0, false, 0, 0⟩
  waiterCount := 0
  nodes := ⟨fun _ => none, fun _ => none, fun _ => none⟩
  queueObjects _ := .new
  queueCount := 0
  locks := ∅
  queues := ∅
  metrics := ⟨0, 0, 0, 0, 0, 0⟩
  grants := []
  rejections := []

namespace MemoryLockManager

variable (s : MemoryLockManager)

def createLockHandle (key : String) (ttlMs : Int) : MemoryLockManager :=
  { s with
    handles := update s.handles s.handleCount ⟨key, s.clock, s.clock + ttlMs, false⟩
    handleCount := s.handleCount + 1
    locks := s.locks.insert key s.handleCount
    metrics :=
      { s.metrics with
        totalAcquired := s.metrics.totalAcquired + 1
        currentActive := s.metrics.currentActive + 1 } }

def unqueue (queue waiter : Nat) : MemoryLockManager :=
  let removed := (s.queueObjects queue).remove queue s.nodes waiter
  { s with
    waiters := update s.waiters waiter { s.waiters waiter with active := false }
    nodes := removed.1
    queueObjects := update s.queueObjects queue removed.2
    metrics :=
      { s.metrics with currentWaiting := max 0 (s.metrics.currentWaiting - 1) } }

def eraseQueue (key : String) : MemoryLockManager := { s with queues := s.queues.erase key }

def leaveQueue (key : String) (queue waiter : Nat) : MemoryLockManager :=
  let left := s.unqueue queue waiter
  if (left.queueObjects queue).size = 0 then left.eraseQueue key else left

/-- `shift`, when the head is no waiter any more. -/
def shiftQueue (queue waiter : Nat) : MemoryLockManager :=
  let removed := (s.queueObjects queue).remove queue s.nodes waiter
  { s with
    nodes := removed.1
    queueObjects := update s.queueObjects queue removed.2 }

def grant (key : String) (queue waiter : Nat) : MemoryLockManager :=
  let left := s.leaveQueue key queue waiter
  { left.createLockHandle key (s.waiters waiter).ttlMs with
    grants := s.grants ++ [(waiter, s.handleCount)] }

/-- The loop of `_promoteNext`; every turn but the last one takes an element out. -/
def promoteLoop (key : String) (queue : Nat) : Nat → MemoryLockManager → MemoryLockManager
  | 0, s => s.eraseQueue key
  | turns + 1, s =>
    if (s.queueObjects queue).size = 0 then s.eraseQueue key
    else
      match (s.queueObjects queue).head with
      | none => promoteLoop key queue turns s
      | some waiter =>
        if (s.waiters waiter).active then s.grant key queue waiter
        else promoteLoop key queue turns (s.shiftQueue queue waiter)

def promoteNext (key : String) : MemoryLockManager :=
  match s.queues.lookup key with
  | none => s
  | some queue => promoteLoop key queue ((s.queueObjects queue).size + 1) s

def dropLock (key : String) (handle : Nat) : MemoryLockManager :=
  { s with
    locks := s.locks.erase key
    handles := update s.handles handle { s.handles handle with released := true }
    metrics := { s.metrics with currentActive := s.metrics.currentActive - 1 } }

def countReleased : MemoryLockManager :=
  { s with metrics := { s.metrics with totalReleased := s.metrics.totalReleased + 1 } }

def countExpired : MemoryLockManager :=
  { s with metrics := { s.metrics with totalExpired := s.metrics.totalExpired + 1 } }

def countTimedOut : MemoryLockManager :=
  { s with metrics := { s.metrics with totalTimedOut := s.metrics.totalTimedOut + 1 } }

def expireHandle (key : String) (handle : Nat) : MemoryLockManager :=
  if s.locks.lookup key = some handle then (s.dropLock key handle).countExpired.promoteNext key
  else s

def expireExisting (key : String) : MemoryLockManager :=
  match s.locks.lookup key with
  | none => s
  | some handle =>
    if (s.handles handle).expiresAt ≤ s.clock then s.expireHandle key handle else s

/-- `_queueFor`: the queue object of the key, a new one when it has none. -/
def queueFor (key : String) : MemoryLockManager × Nat :=
  match s.queues.lookup key with
  | some queue => (s, queue)
  | none =>
    ({ s with
      queueObjects := update s.queueObjects s.queueCount .new
      queueCount := s.queueCount + 1
      queues := s.queues.insert key s.queueCount }, s.queueCount)

def enqueue (key : String) (queue : Nat) (ttlMs waitMs : Int) : MemoryLockManager :=
  let pushed := (s.queueObjects queue).push queue s.nodes s.waiterCount
  { s with
    waiters := update s.waiters s.waiterCount ⟨key, queue, true, ttlMs, waitMs⟩
    waiterCount := s.waiterCount + 1
    nodes := pushed.1
    queueObjects := update s.queueObjects queue pushed.2
    metrics := { s.metrics with currentWaiting := s.metrics.currentWaiting + 1 } }

inductive AcquireAnswer
  | granted (handle : Nat)
  | waiting (waiter : Nat)
  | threw (error : LockError)

/-- `acquire` once its options are read. -/
def acquireKey (key : String) (ttlMs waitMs : Int) : MemoryLockManager × AcquireAnswer :=
  let s := s.expireExisting key
  if (s.locks.lookup key).isSome then
    if waitMs ≤ 0 then (s.countTimedOut, .threw (.timeout key 0))
    else
      let found := s.queueFor key
      if found.1.metrics.currentWaiting ≥ found.1.config.maxQueueDepth then
        (found.1, .threw (.queueFull key found.1.config.maxQueueDepth))
      else (found.1.enqueue key found.2 ttlMs waitMs, .waiting found.1.waiterCount)
  else (s.createLockHandle key ttlMs, .granted s.handleCount)

structure LockAcquireOptions where
  ttlMs : Option Duration
  waitMs : Option Duration
  aborted : Bool

def readOptions (key : String) (options : LockAcquireOptions) :
    Except LockError (String × Int × Int) := do
  let lockKey ← normalizeLockKey key
  if options.aborted then throw (.acquireAborted lockKey)
  let ttlMs ← positiveDuration options.ttlMs s.config.defaultTtlMs "ttlMs"
  let waitMs ← nonNegativeDuration options.waitMs s.config.maxWaitMs "waitMs"
  return (lockKey, ttlMs, waitMs)

def acquire (key : String) (options : LockAcquireOptions) : MemoryLockManager × AcquireAnswer :=
  match s.readOptions key options with
  | .error error => (s, .threw error)
  | .ok (lockKey, ttlMs, waitMs) => s.acquireKey lockKey ttlMs waitMs

def release (handle : Nat) : MemoryLockManager × Option LockError :=
  let held := s.handles handle
  if held.released then (s, none)
  else
    match s.locks.lookup held.lockKey with
    | none => (s, none)
    | some entry =>
      if entry ≠ handle then (s, some (.fencing held.lockKey handle))
      else if held.expiresAt ≤ s.clock then (s.expireHandle held.lockKey handle, none)
      else ((s.dropLock held.lockKey handle).countReleased.promoteNext held.lockKey, none)

def setHandle (handle : Nat) (expiresAt : Int) (released : Bool) : MemoryLockManager :=
  { s with
    handles := update s.handles handle
      { s.handles handle with expiresAt := expiresAt, released := released } }

def heartbeat (handle : Nat) (extendMs : Option Duration) : MemoryLockManager × Option LockError :=
  let held := s.handles handle
  if held.released then (s, some (.released held.lockKey))
  else
    match positiveDuration extendMs s.config.defaultTtlMs "extendMs" with
    | .error error => (s, some error)
    | .ok heartbeatTtlMs =>
      if s.locks.lookup held.lockKey ≠ some handle then
        (s.setHandle handle held.expiresAt true, some (.released held.lockKey))
      else if held.expiresAt ≤ s.clock then
        (s.expireHandle held.lockKey handle, some (.released held.lockKey))
      else (s.setHandle handle (s.clock + heartbeatTtlMs) false, none)

def isLocked (key : String) : MemoryLockManager × Except LockError Bool :=
  match normalizeLockKey key with
  | .error error => (s, .error error)
  | .ok lockKey =>
    (s.expireExisting lockKey, .ok ((s.expireExisting lockKey).locks.lookup lockKey).isSome)

def reject (waiter : Nat) (error : LockError) : MemoryLockManager :=
  let node := s.waiters waiter
  { s.leaveQueue node.lockKey node.queue waiter with
    rejections := s.rejections ++ [(waiter, error)] }

/-- `onAbort` of a waiter. -/
def onAbort (waiter : Nat) : MemoryLockManager :=
  if (s.waiters waiter).active then
    s.reject waiter (.acquireAborted (s.waiters waiter).lockKey)
  else s

def onDeadline (waiter : Nat) : MemoryLockManager :=
  if (s.waiters waiter).active then
    (s.reject waiter (.timeout (s.waiters waiter).lockKey (s.waiters waiter).waitMs)).countTimedOut
  else s

end MemoryLockManager

/-- Timers, deadlines and signals may fire at any time, also those that were cleared. -/
inductive Event
  | acquire (key : String) (options : MemoryLockManager.LockAcquireOptions)
  | release (handle : Nat)
  | heartbeat (handle : Nat) (extendMs : Option Duration)
  | isLocked (key : String)
  | expiry (handle : Nat)
  | abort (waiter : Nat)
  | deadline (waiter : Nat)
  | tick (ms : Nat)

def step (s : MemoryLockManager) : Event → MemoryLockManager
  | .acquire key options => (s.acquire key options).1
  | .release handle => (s.release handle).1
  | .heartbeat handle extendMs => (s.heartbeat handle extendMs).1
  | .isLocked key => (s.isLocked key).1
  | .expiry handle => s.expireHandle (s.handles handle).lockKey handle
  | .abort waiter => s.onAbort waiter
  | .deadline waiter => s.onDeadline waiter
  | .tick ms => { s with clock := s.clock + ms }

abbrev run (config : LockManagerConfig) (clock : Int) (events : List Event) : MemoryLockManager :=
  runAll step (.new config clock) events

end LicoMesh.MemoryLocks

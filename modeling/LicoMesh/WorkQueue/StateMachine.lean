import LicoMesh.WorkQueue.Serialization

namespace LicoMesh.WorkQueue

/-! The priority classes of the queue, and the states of a work item. -/

inductive WorkQueuePriorityClass
  | critical
  | high
  | normal
  | low
  deriving DecidableEq

namespace WorkQueuePriorityClass

def all : List WorkQueuePriorityClass := [.critical, .high, .normal, .low]

/-- `WORK_QUEUE_PRIORITY_WEIGHTS`. -/
def weight : WorkQueuePriorityClass → Nat
  | .critical => 8
  | .high => 4
  | .normal => 2
  | .low => 1

theorem mem_all (priorityClass : WorkQueuePriorityClass) : priorityClass ∈ all := by
  cases priorityClass <;> decide

end WorkQueuePriorityClass

def workQueuePriorityCycle : List WorkQueuePriorityClass :=
  WorkQueuePriorityClass.all.flatMap fun priorityClass =>
    List.replicate priorityClass.weight priorityClass

def normalizeWorkQueuePriority (value : Int) : Int × WorkQueuePriorityClass :=
  if 2 ≤ value then (2, .critical)
  else if value = 1 then (1, .high)
  else if value < 0 then (-1, .low)
  else (0, .normal)

def priorityClassAtCursor (cursor : Nat) : WorkQueuePriorityClass :=
  workQueuePriorityCycle.get
    ⟨cursor % workQueuePriorityCycle.length, Nat.mod_lt _ (by decide)⟩

def nextPriorityCursor (cursor : Nat) : Nat := (cursor + 1) % workQueuePriorityCycle.length

def agingOrder : List WorkQueuePriorityClass := [.low, .normal, .high, .critical]

def agedWorkQueuePriorityClass (priority availableAtMs nowMs : Int)
    (agingIntervalMs : Nat) : WorkQueuePriorityClass :=
  let interval := max 1 agingIntervalMs
  let baseIndex := agingOrder.idxOf (normalizeWorkQueuePriority priority).2
  let promotions := ((nowMs - availableAtMs) / (interval : Int)).toNat
  agingOrder.getD (min (agingOrder.length - 1) (baseIndex + promotions)) .critical

/-- The scheduling position of an item below its queue. -/
@[ext] structure Hierarchy where
  tenantId : String := ""
  workspaceId : String := ""
  projectId : String := ""
  deriving DecidableEq

def hierarchicalScopeParts (scope : QueueScope) : Hierarchy where
  tenantId := toText scope.tenantId
  workspaceId := toText scope.workspaceId
  projectId := toText scope.projectId

namespace Hierarchy

/-- The `@x = '' OR x = @x` filters of the count and claim statements. -/
def admits (filter position : Hierarchy) : Bool :=
  (filter.tenantId = "" || filter.tenantId = position.tenantId) &&
    (filter.workspaceId = "" || filter.workspaceId = position.workspaceId) &&
    (filter.projectId = "" || filter.projectId = position.projectId)

def queueLevel (_ : Hierarchy) : Hierarchy := {}

def tenantLevel (position : Hierarchy) : Hierarchy := { tenantId := position.tenantId }

def workspaceLevel (position : Hierarchy) : Hierarchy :=
  { tenantId := position.tenantId, workspaceId := position.workspaceId }

def partitionText (position : Hierarchy) : String :=
  String.ofList (position.tenantId.toList ++ '\x1f' :: (position.workspaceId.toList ++
    '\x1f' :: position.projectId.toList))

@[simp] theorem admits_empty (position : Hierarchy) : admits {} position = true := by
  simp [admits]

end Hierarchy

/-- `WorkQueueCapacityError`. -/
def workQueueCapacityError (reason : String) (limit : Nat) : QueueError where
  message := "Work queue capacity exceeded: " ++ reason ++ "."
  code := some "work_queue_capacity_exceeded"
  reason := some reason
  limit := some limit

def assertCapacityBelow (count limit : Nat) (reason : String) : Except QueueError Unit :=
  if limit ≤ count then .error (workQueueCapacityError reason limit) else .ok ()

def assertCapacityAtMost (count limit : Nat) (reason : String) : Except QueueError Unit :=
  if limit < count then .error (workQueueCapacityError reason limit) else .ok ()

@[simp] theorem assertCapacityBelow_ok :
    assertCapacityBelow count limit reason = .ok done ↔ count < limit := by
  unfold assertCapacityBelow
  split <;> simp <;> omega

variable {fromState toState : WorkQueueState} {transition : WorkQueueTransition}

inductive WorkQueueState
  | queued
  | running
  | inDoubt
  | retryWait
  | completed
  | failed
  | cancelled
  | expired
  | recovered
  deriving DecidableEq

namespace WorkQueueState

def all : List WorkQueueState :=
  [.queued, .running, .inDoubt, .retryWait, .completed, .failed, .cancelled, .expired, .recovered]

def name : WorkQueueState → String
  | .queued => "queued"
  | .running => "running"
  | .inDoubt => "in_doubt"
  | .retryWait => "retry_wait"
  | .completed => "completed"
  | .failed => "failed"
  | .cancelled => "cancelled"
  | .expired => "expired"
  | .recovered => "recovered"

/-- `isTerminalWorkQueueState`: completed, cancelled and expired. -/
def isTerminal : WorkQueueState → Bool
  | .completed | .cancelled | .expired => true
  | _ => false

/-- The states `countOutstanding` counts against the admission limits. -/
def isOutstanding : WorkQueueState → Bool
  | .queued | .retryWait | .running | .recovered => true
  | _ => false

def isClaimable : WorkQueueState → Bool
  | .queued | .recovered => true
  | _ => false

def isLeased : WorkQueueState → Bool
  | .running | .inDoubt => true
  | _ => false

end WorkQueueState

inductive WorkQueueTransition
  | enqueue
  | retentionSnapshot
  | claim
  | progress
  | interrupt
  | terminationAcknowledged
  | complete
  | retry
  | fail
  | recover
  | leaseExpired
  | delayMatured
  | cancelRunning
  | cancel
  | expire
  | requeueRecovered
  deriving DecidableEq

structure WorkQueueTransitionDefinition where
  fromStates : List (Option WorkQueueState)
  toStates : List WorkQueueState

namespace WorkQueueTransition

def name : WorkQueueTransition → String
  | .enqueue => "enqueue"
  | .retentionSnapshot => "retention_snapshot"
  | .claim => "claim"
  | .progress => "progress"
  | .interrupt => "interrupt"
  | .terminationAcknowledged => "termination_acknowledged"
  | .complete => "complete"
  | .retry => "retry"
  | .fail => "fail"
  | .recover => "recover"
  | .leaseExpired => "lease_expired"
  | .delayMatured => "delay_matured"
  | .cancelRunning => "cancel_running"
  | .cancel => "cancel"
  | .expire => "expire"
  | .requeueRecovered => "requeue_recovered"

/-- `WORK_QUEUE_TRANSITIONS`. -/
def definition : WorkQueueTransition → WorkQueueTransitionDefinition
  | .enqueue => ⟨[none], [.queued, .retryWait]⟩
  | .retentionSnapshot => ⟨[none], WorkQueueState.all⟩
  | .claim => ⟨[some .queued, some .recovered], [.running]⟩
  | .progress => ⟨[some .running], [.running]⟩
  | .interrupt => ⟨[some .running], [.inDoubt]⟩
  | .terminationAcknowledged =>
    ⟨[some .inDoubt], [.queued, .retryWait, .failed, .completed]⟩
  | .complete => ⟨[some .running], [.completed]⟩
  | .retry => ⟨[some .running], [.queued, .retryWait, .failed]⟩
  | .fail =>
    ⟨[some .queued, some .retryWait, some .running, some .inDoubt, some .recovered],
      [.failed]⟩
  | .recover => ⟨[some .failed], [.recovered]⟩
  | .leaseExpired => ⟨[some .running], [.inDoubt]⟩
  | .delayMatured => ⟨[some .retryWait], [.queued]⟩
  | .cancelRunning => ⟨[some .running], [.cancelled]⟩
  | .cancel =>
    ⟨[some .queued, some .retryWait, some .running, some .inDoubt, some .recovered],
      [.cancelled]⟩
  | .expire =>
    ⟨[some .queued, some .retryWait, some .running, some .inDoubt, some .recovered],
      [.expired]⟩
  | .requeueRecovered =>
    ⟨[some .recovered], [.queued, .retryWait, .failed, .cancelled]⟩

end WorkQueueTransition

def getAllowedTargetStates (transition : WorkQueueTransition)
    (fromState : Option WorkQueueState) : List WorkQueueState :=
  if fromState ∈ transition.definition.fromStates then transition.definition.toStates else []

def isLegalWorkQueueTransition (transition : WorkQueueTransition)
    (fromState : Option WorkQueueState) (toState : WorkQueueState) : Bool :=
  decide (toState ∈ getAllowedTargetStates transition fromState)

variable (legal : isLegalWorkQueueTransition transition (some fromState) toState)

include legal in
theorem isLegal_not_terminal : fromState.isTerminal = false := by
  revert legal
  cases fromState <;> first | exact fun _ => rfl | (cases transition <;> cases toState <;> decide)

theorem isLegal_from_failed (legal : isLegalWorkQueueTransition transition (some .failed) toState) :
    transition = .recover ∧ toState = .recovered := by
  revert legal
  cases transition <;> cases toState <;> decide

theorem isLegal_snapshot (toState : WorkQueueState) :
    isLegalWorkQueueTransition .retentionSnapshot none toState := by
  cases toState <;> decide

theorem isLegal_enqueue (initial : toState = .queued ∨ toState = .retryWait) :
    isLegalWorkQueueTransition .enqueue none toState := by
  rcases initial with rfl | rfl <;> decide

theorem isLegal_progress : isLegalWorkQueueTransition .progress (some .running) .running := by
  decide

include legal in
theorem isLegal_some_not_baseline : transition ≠ .enqueue ∧ transition ≠ .retentionSnapshot := by
  constructor <;> rintro rfl <;> revert legal <;> cases fromState <;> cases toState <;> decide

end LicoMesh.WorkQueue

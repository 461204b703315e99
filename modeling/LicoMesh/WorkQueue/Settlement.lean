import LicoMesh.WorkQueue.Enqueue

namespace LicoMesh.WorkQueue

open Library Transaction

variable (env : QueueEnv)

structure LeaseInput where
  nowMs : Int
  workItemId : String
  leaseId : String := ""

/-- A command that names its item inside a queue and a scope. -/
structure BoundaryInput where
  nowMs : Int
  workItemId : String
  queue : QueueReference := {}
  scope : Option QueueScope := none
  scopeKey : Option String := none

/-- The outcome of an item command; `done` is the command's own success flag. -/
structure ItemOutcome where
  done : Bool
  idempotent : Bool := false
  expired : Bool := false
  workItem : WorkItem

def workItemMatchesBoundary (row : WorkItemRow) (input : BoundaryInput) : Bool :=
  let queueDefinitionId := input.queue.optionalId
  (queueDefinitionId = "" || toText row.queueDefinitionId = queueDefinitionId) &&
    match input.scopeKey, input.scope with
    | some scopeKey, _ => toText row.scopeKey = toText scopeKey
    | none, some scope => toText row.scopeKey = scopeKeyFromScope scope
    | none, none => true

def requireWorkItemBoundary (input : BoundaryInput) : StoreTransaction WorkItemRow := do
  let store ← get
  match store.getWorkItem (toText input.workItemId) with
  | some row =>
    if workItemMatchesBoundary row input then return row
    else throw { message := "Work item not found: " ++ toText input.workItemId
                 code := some "work_queue_item_not_found" }
  | none => throw { message := "Work item not found: " ++ toText input.workItemId
                    code := some "work_queue_item_not_found" }

def requireProjectionRow (row : WorkItemRow) : Except QueueError Unit :=
  match env.adapter with
  | .sqlite => .ok ()
  | .postgres =>
    if row.workItemId = "" ∨ row.queueDefinitionId = "" then
      .error { message := "Work item projection is incomplete." }
    else .ok ()

def expireRow (row : WorkItemRow) (nowMs : Int) : StoreTransaction WorkItemRow :=
  transitionProjection env row .expire .expired (releasedAt nowMs) nowMs

def pastDeadline (store : Store) (input : LeaseInput) : Option WorkItemRow :=
  (store.getWorkItem (toText input.workItemId)).filter fun row => isWorkExpired row input.nowMs

def withLeasedRow {α : Type} (input : LeaseInput) (onExpired : WorkItemRow → α)
    (settle : WorkItemRow → StoreTransaction α) : StoreTransaction α := do
  let store ← get
  match pastDeadline store input with
  | some current =>
    check (requireProjectionRow env current)
    let updated ← expireRow env current input.nowMs
    return onExpired updated
  | none =>
    let row ← requireLeasedRow input.workItemId input.leaseId input.nowMs
    check (requireProjectionRow env row)
    settle row

def expiredOutcome (row : WorkItemRow) : ItemOutcome where
  done := false
  expired := true
  workItem := rowToWorkItem row

/-- `{ ...released, last_error_json }`. -/
def releasedWith (nowMs : Int) (lastError : Json) : ProjectionPatch :=
  { releasedAt nowMs with lastError := some lastError }

def firstError (errors : List (Option Json)) : Json :=
  (errors.find? Option.isSome).join.getD Json.emptyObject

def settledByLease (store : Store) (row : WorkItemRow) (transition : WorkQueueTransition)
    (leaseId : String) : Bool :=
  (store.getLastTransition row.workItemId).any fun terminal =>
    terminal.transition = transition && terminal.leaseId = toText leaseId

def alreadySettled (store : Store) (input : LeaseInput) (state : WorkQueueState)
    (transition : WorkQueueTransition) : Option WorkItemRow :=
  (store.getWorkItem (toText input.workItemId)).filter fun row =>
    row.state = state && settledByLease store row transition input.leaseId

def sinkFence (row : WorkItemRow) (sinkId effectId : String) (nowMs : Int) : SinkFence where
  workItemId := row.workItemId
  generation := row.leaseSeq
  sinkId := sinkId
  effectId := toText effectId
  status := "settled"
  settledAtMs := nowMs

structure CompleteInput extends LeaseInput where
  effectId : String := ""

def complete (input : CompleteInput) : StoreTransaction ItemOutcome := do
  let store ← get
  match alreadySettled store input.toLeaseInput .completed .complete with
  | some current =>
    return { done := true, idempotent := true, workItem := rowToWorkItem current }
  | none =>
    withLeasedRow env input.toLeaseInput expiredOutcome fun row => do
      let updated ← transitionProjection env row .complete .completed
        (releasedWith input.nowMs .emptyObject) input.nowMs
      modify fun store =>
        store.insertSinkFence (sinkFence row "complete" input.effectId input.nowMs)
      return { done := true, workItem := rowToWorkItem updated }

structure CancelRunningInput extends LeaseInput where
  reasonDetails : Option Json := none

def cancelRunning (input : CancelRunningInput) : StoreTransaction ItemOutcome := do
  let store ← get
  match alreadySettled store input.toLeaseInput .cancelled .cancelRunning with
  | some current =>
    return { done := true, idempotent := true, workItem := rowToWorkItem current }
  | none =>
    withLeasedRow env input.toLeaseInput expiredOutcome fun row => do
      let updated ← transitionProjection env row .cancelRunning .cancelled
        (releasedWith input.nowMs (firstError [input.reasonDetails])) input.nowMs
      return { done := true, workItem := rowToWorkItem updated }

structure RetryInput extends LeaseInput where
  delayMs : Option Int := none
  error : Option Json := none
  lastError : Option Json := none

structure RetryOutcome extends ItemOutcome where
  retryable : Bool := false
  delayMs : Int := 0

def retryDelayMs (row : WorkItemRow) (given : Option Int) : Int :=
  match given with
  | some delayMs => max 0 delayMs
  | none => computeDeterministicRetryDelay env.sha256 row.queueDefinitionId row.workItemId
      row.attempt env.resolvedPolicy.retryBackoff

def delayedState (delayMs : Int) : WorkQueueState :=
  if 0 < delayMs then .retryWait else .queued

def isExhausted (row : WorkItemRow) : Bool := decide (row.maxAttempts ≤ row.attempt)

/-- `exhausted ? 0 : …`. -/
def attemptDelayMs (row : WorkItemRow) (given : Option Int) : Int :=
  if isExhausted row then 0 else retryDelayMs env row given

def attemptState (row : WorkItemRow) (given : Option Int) : WorkQueueState :=
  if isExhausted row then .failed else delayedState (attemptDelayMs env row given)

def retry (input : RetryInput) : StoreTransaction RetryOutcome :=
  withLeasedRow env input.toLeaseInput (fun row => { expiredOutcome row with }) fun row => do
    let delayMs := attemptDelayMs env row input.delayMs
    if isExhausted row = false ∧ 0 < row.expiresAtMs ∧
        row.expiresAtMs ≤ input.nowMs + delayMs then
      let updated ← expireRow env row input.nowMs
      return { expiredOutcome updated with }
    else
      let updated ← transitionProjection env row .retry (attemptState env row input.delayMs)
        (releasedWith (input.nowMs + delayMs) (firstError [input.error, input.lastError]))
        input.nowMs
      return { done := true, workItem := rowToWorkItem updated, retryable := !isExhausted row,
               delayMs }

structure ProgressInput extends LeaseInput where
  extendMs : Option Int := none
  leaseTimeoutMs : Option Int := none

def progress (input : ProgressInput) : StoreTransaction ItemOutcome :=
  withLeasedRow env input.toLeaseInput expiredOutcome fun row => do
    let extendMs := max 1 ((input.extendMs <|> input.leaseTimeoutMs).getD
      env.resolvedPolicy.leaseTimeoutMs)
    let updated ← transitionProjection env row .progress .running
      { leaseExpiresAtMs := some (boundedLeaseExpiry row input.nowMs extendMs) } input.nowMs
    return { done := true, workItem := rowToWorkItem updated }

structure CheckpointInput extends LeaseInput where
  checkpointRef : Json
  expectedCheckpointSeq : Option Int := none

def checkpointConflict (currentSeq : Nat) : QueueError where
  message := "Queue checkpoint revision does not match the current projection."
  code := some "work_queue_checkpoint_conflict"
  expectedCheckpointSeq := some currentSeq

def checkpointDraft (row : WorkItemRow) (checkpointDigest : String) (checkpointSeq : Nat) :
    JournalDraft where
  workItemId := row.workItemId
  queueDefinitionId := row.queueDefinitionId
  queueDefinitionVersion := row.queueDefinitionVersion
  transition := .progress
  fromState := some .running
  toState := .running
  leaseId := row.leaseId
  leaseSeq := row.leaseSeq
  decision := .checkpoint checkpointDigest checkpointSeq

/-- The checkpoint columns are written directly; the journal entry carries their
digest and number, not the columns. -/
def recordCheckpoint (row : WorkItemRow) (normalized : NormalizedCheckpoint)
    (nowMs : Int) : StoreTransaction ItemOutcome := do
  let store ← get
  let checkpointSeq := row.checkpoint.seq + 1
  let written := store.updateCheckpoint row.workItemId
    { refJson := normalized.serialized
      digest := normalized.checkpointDigest
      seq := checkpointSeq
      updatedAtMs := nowMs } nowMs
  set written
  match written.getWorkItem row.workItemId with
  | none => throw { message := "Work item projection disappeared after checkpoint: " ++
                      row.workItemId }
  | some updated =>
    let _ ← appendTransitionInternal env updated
      (checkpointDraft row normalized.checkpointDigest checkpointSeq) nowMs
    let next ← get
    return { done := true
             workItem := rowToWorkItem ((next.getWorkItem row.workItemId).getD updated) }

def checkpoint (input : CheckpointInput) : StoreTransaction ItemOutcome := do
  let row ← requireLeasedRow input.workItemId input.leaseId input.nowMs
  check (requireProjectionRow env row)
  let normalized ← check (normalizeCheckpointRef env.sha256 input.checkpointRef)
  if row.checkpoint.digest = normalized.checkpointDigest then
    return { done := true, idempotent := true, workItem := rowToWorkItem row }
  else if input.expectedCheckpointSeq.any fun expected =>
      expected ≠ (row.checkpoint.seq : Int) then
    throw (checkpointConflict row.checkpoint.seq)
  else recordCheckpoint env row normalized input.nowMs

structure ExpireInput extends BoundaryInput where
  force : Bool := false

/-- The states `expire` and `cancel` act on. -/
def isOpen : WorkQueueState → Bool
  | .queued | .retryWait | .running | .inDoubt | .recovered => true
  | _ => false

def expire (input : ExpireInput) : StoreTransaction ItemOutcome := do
  let row ← requireWorkItemBoundary input.toBoundaryInput
  if row.state = .expired then
    return { done := true, idempotent := true, workItem := rowToWorkItem row }
  else if isOpen row.state = false ∨
      (input.force = false ∧ isWorkExpired row input.nowMs = false) then
    return { done := false, idempotent := true, workItem := rowToWorkItem row }
  else
    let updated ← expireRow env row input.nowMs
    return { done := true, workItem := rowToWorkItem updated }

structure CancelInput extends BoundaryInput where
  reasonDetails : Option Json := none

def cancel (input : CancelInput) : StoreTransaction ItemOutcome := do
  let row ← requireWorkItemBoundary input.toBoundaryInput
  if row.state = .cancelled then
    return { done := true, idempotent := true, workItem := rowToWorkItem row }
  else if row.state = .completed then
    return { done := false, idempotent := true, workItem := rowToWorkItem row }
  else if isWorkExpired row input.nowMs then
    let updated ← expireRow env row input.nowMs
    return expiredOutcome updated
  else if isOpen row.state then
    let updated ← transitionProjection env row .cancel .cancelled
      (releasedWith input.nowMs (firstError [input.reasonDetails])) input.nowMs
    return { done := true, workItem := rowToWorkItem updated }
  else throw { message := "Work item " ++ input.workItemId ++
                 " cannot be cancelled from state " ++ row.state.name ++ "." }

structure FailInput extends BoundaryInput where
  leaseId : String := ""
  fallbackTaskId : String := ""
  error : Option Json := none
  lastError : Option Json := none
  effectId : String := ""

/-- Only a running item asks `fail` for its lease. -/
def fencedForFail (input : FailInput) (row : WorkItemRow) : StoreTransaction WorkItemRow :=
  if row.state = .running then do
    let leased ← requireLeasedRow input.workItemId input.leaseId input.nowMs
    check (requireProjectionRow env leased)
    return leased
  else return row

def failPatch (input : FailInput) (row : WorkItemRow) : ProjectionPatch :=
  { releasedWith input.nowMs (firstError [input.error, input.lastError]) with
    fallbackTaskId := some (firstText [some (toText input.fallbackTaskId),
      some row.fallbackTaskId]) }

def fail (input : FailInput) : StoreTransaction ItemOutcome := do
  let current ← requireWorkItemBoundary input.toBoundaryInput
  if current.state.isTerminal then
    throw { message := "Cannot fail terminal work item " ++ input.workItemId ++ "." }
  else if isWorkExpired current input.nowMs then
    let updated ← expireRow env current input.nowMs
    return expiredOutcome updated
  else
    let row ← fencedForFail env input current
    let updated ← transitionProjection env row .fail .failed (failPatch input row) input.nowMs
    modify fun store => store.insertSinkFence (sinkFence row "fail" input.effectId input.nowMs)
    return { done := true, workItem := rowToWorkItem updated }

structure RecoverInput extends BoundaryInput where
  lastError : Option Json := none

def recoverPatch (input : RecoverInput) (row : WorkItemRow) : ProjectionPatch :=
  { releasedWith input.nowMs (firstError [input.lastError]) with attempt := some row.attempt }

def recover (input : RecoverInput) : StoreTransaction ItemOutcome := do
  let row ← requireWorkItemBoundary input.toBoundaryInput
  if isWorkExpired row input.nowMs then
    throw { message := "Work item " ++ input.workItemId ++
              " cannot be recovered after its deadline." }
  else
    let store ← get
    let policyForItem ← check (policyForRow env store row)
    check (assertAdmissionCapacity store row.queueDefinitionId row.toHierarchy .recovered
      policyForItem)
    let updated ← transitionProjection env row .recover .recovered (recoverPatch input row)
      input.nowMs
    return { done := true, workItem := rowToWorkItem updated }

structure MarkInDoubtInput extends LeaseInput where
  error : Option Json := none
  reason : String := ""

def handlerUnconfirmed (reason : String) : Json :=
  .obj [("type", .str "handler_unconfirmed"),
    ("reason", .str (firstText [some reason, some "handler_timeout"]))]

def workItemNotFound (workItemId : String) : QueueError where
  message := "Work item not found: " ++ workItemId

def leaseFenceRejected (workItemId : String) : QueueError where
  message := "Lease fence rejected for work item " ++ workItemId ++ "."

def markInDoubt (input : MarkInDoubtInput) : StoreTransaction ItemOutcome := do
  let store ← get
  match store.getWorkItem (toText input.workItemId) with
  | none => throw (workItemNotFound input.workItemId)
  | some row =>
    let leaseId := toText input.leaseId
    if row.state = .inDoubt then
      return { done := decide (leaseId ≠ "" ∧ row.leaseId = leaseId), idempotent := true,
               workItem := rowToWorkItem row }
    else if row.state ≠ .running then
      return { done := false, idempotent := true, workItem := rowToWorkItem row }
    else if leaseId ≠ "" ∧ row.leaseId ≠ leaseId then
      throw (leaseFenceRejected input.workItemId)
    else
      let updated ← transitionProjection env row .interrupt .inDoubt
        { lastError := some (input.error.getD (handlerUnconfirmed input.reason)) } input.nowMs
      return { done := true, workItem := rowToWorkItem updated }

structure AcknowledgeInput extends LeaseInput where
  toState : String := ""
  delayMs : Option Int := none
  error : Option Json := none
  reason : String := ""
  effectId : String := ""

inductive RequestedSettlement
  | anotherAttempt
  | settled (state : WorkQueueState)

def requestedSettlement (toState : String) : Option RequestedSettlement :=
  if toState = "retry" ∨ toState = "queued" ∨ toState = "retry_wait" then some .anotherAttempt
  else if toState = "failed" then some (.settled .failed)
  else if toState = "completed" then some (.settled .completed)
  else none

def settlementTarget (row : WorkItemRow) (given : Option Int) :
    RequestedSettlement → WorkQueueState × Int
  | .settled state => (state, 0)
  | .anotherAttempt => (attemptState env row given, attemptDelayMs env row given)

def terminationAcknowledged (reason : String) : Json :=
  .obj [("type", .str "termination_acknowledged"),
    ("reason", .str (firstText [some reason, some "handler_terminated"]))]

structure AcknowledgeOutcome extends ItemOutcome where
  delayMs : Int := 0

def isSettledEnd (state : WorkQueueState) : Bool := state = .completed || state = .failed

def fenceAcknowledged (input : AcknowledgeInput) (row : WorkItemRow)
    (toState : WorkQueueState) : StoreTransaction PUnit :=
  if isSettledEnd toState then
    modify fun store => store.insertSinkFence (sinkFence row
      (if toState = .completed then "complete" else "fail") input.effectId input.nowMs)
  else pure ⟨⟩

def acknowledgeRow (input : AcknowledgeInput) (row : WorkItemRow)
    (settlement : RequestedSettlement) : StoreTransaction AcknowledgeOutcome := do
  let toState := (settlementTarget env row input.delayMs settlement).1
  let delayMs := (settlementTarget env row input.delayMs settlement).2
  let availableAtMs := input.nowMs + if isSettledEnd toState then 0 else delayMs
  let updated ← transitionProjection env row .terminationAcknowledged toState
    (releasedWith availableAtMs (input.error.getD (terminationAcknowledged input.reason)))
    input.nowMs
  fenceAcknowledged input row toState
  return { done := true, workItem := rowToWorkItem updated, delayMs }

def acknowledgeTermination (input : AcknowledgeInput) : StoreTransaction AcknowledgeOutcome := do
  let store ← get
  match store.getWorkItem (toText input.workItemId) with
  | none => throw (workItemNotFound input.workItemId)
  | some row =>
    let leaseId := toText input.leaseId
    if row.state ≠ .inDoubt then
      return { done := false, idempotent := true, workItem := rowToWorkItem row }
    else if leaseId ≠ "" ∧ row.leaseId ≠ leaseId then
      throw (leaseFenceRejected input.workItemId)
    else
      match requestedSettlement (toText input.toState) with
      | none => throw { message := "Unsupported termination settlement state: " ++
                          toText input.toState }
      | some settlement => acknowledgeRow env input row settlement

structure SinkReceiptInput where
  nowMs : Int
  workItemId : String
  generation : Option Int := none
  sinkId : String := ""
  effectId : String := ""

structure SinkReceiptOutcome where
  recorded : Bool
  generation : Int

def receiptFence (store : Store) (input : SinkReceiptInput) : SinkFence where
  workItemId := toText input.workItemId
  generation := input.generation.getD
    ((store.getWorkItem (toText input.workItemId)).elim 0 fun row => row.leaseSeq)
  sinkId := toText (firstText [some input.sinkId, some "effect"])
  effectId := toText input.effectId
  status := "settled"
  settledAtMs := input.nowMs

def recordSinkReceipt (input : SinkReceiptInput) : StoreTransaction SinkReceiptOutcome := do
  let store ← get
  let fence := receiptFence store input
  set (store.insertSinkFence fence)
  return { recorded := (store.sinkFences.find? fence.toSinkFenceKey).isNone
           generation := fence.generation }

structure ReconcileInput where
  nowMs : Int
  queue : QueueReference := {}
  scope : Option QueueScope := none
  scopeKey : Option String := none
  workItemId : String := ""
  limit : Option Int := none

def reconcileInDoubt (input : ReconcileInput) : StoreTransaction (List WorkItem) :=
  let queueDefinitionId := input.queue.optionalId
  let scopeKey := optionalScopeKey input.scopeKey input.scope
  if input.workItemId ≠ "" then
    reconcileInDoubtLocked env input.nowMs queueDefinitionId scopeKey (toText input.workItemId) 1
  else
    reconcileInDoubtLocked env input.nowMs queueDefinitionId scopeKey ""
      (max 1 (input.limit.getD 1000)).toNat

end LicoMesh.WorkQueue

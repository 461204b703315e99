import LicoMesh.Library.Transaction
import LicoMesh.WorkQueue.Statements

namespace LicoMesh.WorkQueue

open Library Transaction

/-! The store runtime: transitions with their journal and retention, and the sweeps. -/

inductive Adapter
  | sqlite
  | postgres
  deriving DecidableEq

structure QueueEnv where
  adapter : Adapter
  resolvedPolicy : QueuePolicy
  sha256 : String → Sha256Digest

abbrev StoreTransaction (α : Type) := Transaction Store QueueError α

variable (env : QueueEnv)

def policyForRow (store : Store) (row : WorkItemRow) : Except QueueError QueuePolicy :=
  getPolicy (mergePolicy env.resolvedPolicy
    (store.getDefinitionPolicy row.queueDefinitionId row.queueDefinitionVersion))

def retentionSnapshot (row : WorkItemRow) : JournalDraft where
  workItemId := row.workItemId
  queueDefinitionId := row.queueDefinitionId
  queueDefinitionVersion := row.queueDefinitionVersion
  transition := .retentionSnapshot
  fromState := none
  toState := row.state
  leaseId := row.leaseId
  leaseSeq := row.leaseSeq
  decision := .projectionRow row

def insertRetentionSnapshot (row : WorkItemRow) (nowMs : Int) (store : Store) : Store :=
  (store.deleteJournalByWorkItem row.workItemId).appendJournal (retentionSnapshot row) nowMs

def compactWorkJournal (workItemId : String) (nowMs : Int) (force : Bool) :
    StoreTransaction Bool := do
  let store ← get
  match store.getWorkItem workItemId with
  | none => return false
  | some row =>
    let policy ← check (policyForRow env store row)
    let count := store.countJournalByWorkItem workItemId
    if count ≤ 1 ∨ (force = false ∧ count ≤ policy.retention.maxTransitionsPerWorkItem.val)
    then return false
    else
      set (insertRetentionSnapshot row nowMs store)
      return true

def removeItems (rows : List WorkItemRow) (store : Store) : Store :=
  rows.foldl (fun current row => current.removeItem row.workItemId) store

def deleteTerminalRows (queueDefinitionId excludeWorkItemId : String) (limit : Nat)
    (store : Store) : Store :=
  removeItems (store.oldestTerminalItems queueDefinitionId excludeWorkItemId limit) store

def retentionMaintenanceThreshold (retention : RetentionPolicy PolicyLimit) : Nat :=
  max 1 (min retention.cleanupBatchSize.val
    (min retention.maxTransitionsPerWorkItem.val retention.maxJournalEntries.val))

/-- How many terminal items retention sees: SQLite bounds each state by itself,
PostgreSQL the three states together. -/
def retainedTerminalCount (store : Store) (queueDefinitionId : String) (limit : Nat) : Nat :=
  match env.adapter with
  | .sqlite =>
    store.countRetainedState queueDefinitionId .completed limit +
      store.countRetainedState queueDefinitionId .cancelled limit +
      store.countRetainedState queueDefinitionId .expired limit
  | .postgres => store.countRetainedTerminal queueDefinitionId limit

def trimTerminalItems (retention : RetentionPolicy PolicyLimit) (row : WorkItemRow)
    (store : Store) : Store :=
  let terminalCount :=
    retainedTerminalCount env store row.queueDefinitionId retention.maxTerminalItems.val
  if retention.maxTerminalItems.val < terminalCount then
    deleteTerminalRows row.queueDefinitionId row.workItemId
      (min retention.cleanupBatchSize.val (terminalCount - retention.maxTerminalItems.val)) store
  else store

def journalIsFull (retention : RetentionPolicy PolicyLimit) (queueDefinitionId : String)
    (store : Store) : Bool :=
  decide (retention.maxJournalEntries.val ≤
    store.countJournalByQueue queueDefinitionId retention.maxJournalEntries.val)

def trimFullJournal (retention : RetentionPolicy PolicyLimit) (row : WorkItemRow)
    (store : Store) : Store :=
  if journalIsFull retention row.queueDefinitionId store then
    deleteTerminalRows row.queueDefinitionId row.workItemId retention.cleanupBatchSize.val store
  else store

def journalCompactionCandidates (retention : RetentionPolicy PolicyLimit) (row : WorkItemRow)
    (store : Store) : List String :=
  (store.oldestJournalCandidates row.queueDefinitionId row.workItemId
    (retention.cleanupBatchSize.val * retention.maxTransitionsPerWorkItem.val)).eraseDups.take
      retention.cleanupBatchSize.val

def compactFullJournal (retention : RetentionPolicy PolicyLimit) (row : WorkItemRow)
    (nowMs : Int) : StoreTransaction PUnit := do
  let store ← get
  if journalIsFull retention row.queueDefinitionId store then
    let _ ← (journalCompactionCandidates retention row store).mapM fun workItemId =>
      compactWorkJournal env workItemId nowMs true
    return ⟨⟩
  else return ⟨⟩

def settleFullJournal (retention : RetentionPolicy PolicyLimit) (row : WorkItemRow)
    (nowMs : Int) : StoreTransaction Bool := do
  let store ← get
  if journalIsFull retention row.queueDefinitionId store then
    if 1 < store.countJournalByWorkItem row.workItemId then
      let compacted ← compactWorkJournal env row.workItemId nowMs true
      if compacted then return true
      else throw (workQueueCapacityError "queue_journal_retention"
        retention.maxJournalEntries.val)
    else throw (workQueueCapacityError "queue_journal_retention"
      retention.maxJournalEntries.val)
  else return false

def maintainRetentionAfterAppend (row : WorkItemRow) (nowMs : Int) : StoreTransaction Bool := do
  let store ← get
  let policy ← check (policyForRow env store row)
  let threshold := retentionMaintenanceThreshold policy.retention
  let counted := store.incrementRetentionState row.queueDefinitionId
  if counted.pendingTransitions row.queueDefinitionId < threshold then
    set counted
    return false
  else
    let reset := counted.resetRetentionState row.queueDefinitionId threshold
    set (trimFullJournal policy.retention row (trimTerminalItems env policy.retention row reset))
    let _ ← compactFullJournal env policy.retention row nowMs
    settleFullJournal env policy.retention row nowMs

/-- Failing an item needs room below `maxFailed`; the oldest failed items give way. -/
def makeFailedCapacityRoom (row : WorkItemRow) : StoreTransaction PUnit := do
  let store ← get
  let policy ← check (policyForRow env store row)
  let maxFailed := policy.capacity.maxFailed.val
  let failedCount := store.countRetainedState row.queueDefinitionId .failed maxFailed
  if failedCount < maxFailed then return ⟨⟩
  else
    let candidates := store.oldestFailedItems row.queueDefinitionId row.workItemId
      (min policy.retention.cleanupBatchSize.val (failedCount - maxFailed + 1))
    let trimmed := removeItems candidates store
    if trimmed.countRetainedState row.queueDefinitionId .failed maxFailed < maxFailed then
      set trimmed
    else throw (workQueueCapacityError "queue_failed_retained" maxFailed)

def illegalTransition (draft : JournalDraft) : QueueError where
  message := "Illegal work queue transition: " ++ draft.transition.name ++ " " ++
    draft.fromState.elim "none" WorkQueueState.name ++ " -> " ++ draft.toState.name

def compactAfterAppend (workItemId : String) (nowMs : Int) : StoreTransaction Bool :=
  match env.adapter with
  | .sqlite => compactWorkJournal env workItemId nowMs false
  | .postgres => pure false

def appendTransitionInternal (row : WorkItemRow) (draft : JournalDraft) (nowMs : Int) :
    StoreTransaction Nat := do
  if isLegalWorkQueueTransition draft.transition draft.fromState draft.toState then
    let store ← get
    let seq := store.journal.lastSeq + 1
    set (store.appendJournal draft nowMs)
    let workJournalCompacted ← compactAfterAppend env row.workItemId nowMs
    let queueRetentionMaintained ← maintainRetentionAfterAppend env row nowMs
    let current ← get
    if workJournalCompacted || queueRetentionMaintained then
      match current.getWorkItem row.workItemId with
      | none => return seq
      | some live => return if live.lastTransitionSeq = 0 then seq else live.lastTransitionSeq
    else return seq
  else throw (illegalTransition draft)

def applyProjectionPatch (row : WorkItemRow) (patch : ProjectionPatch)
    (toState : WorkQueueState) (nowMs : Int) : StoreTransaction WorkItemRow := do
  let store ← get
  let projection := patch.apply toState row.toWorkItemProjection
  let next := store.updateStateProjection row.workItemId projection nowMs
  set next
  match next.getWorkItem row.workItemId with
  | some live => return live
  | none =>
    match env.adapter with
    | .sqlite => return { row with toWorkItemProjection := projection, updatedAtMs := nowMs }
    | .postgres =>
      throw { message := "Work item projection disappeared: " ++ row.workItemId }

def transitionDraft (row : WorkItemRow) (transition : WorkQueueTransition)
    (toState : WorkQueueState) (patch : ProjectionPatch) (nowMs : Int) : JournalDraft where
  workItemId := row.workItemId
  queueDefinitionId := row.queueDefinitionId
  queueDefinitionVersion := row.queueDefinitionVersion
  transition := transition
  fromState := some row.state
  toState := toState
  leaseId :=
    if transition = .claim then patch.leaseId.getD ""
    else firstText [some row.leaseId, patch.leaseId]
  leaseSeq :=
    if transition = .claim then patch.leaseSeq.getD 0
    else if row.leaseSeq = 0 then patch.leaseSeq.getD 0 else row.leaseSeq
  decision := .projectionPatch patch toState nowMs

/-- `if (toState === FAILED && row.state !== FAILED) makeFailedCapacityRoom(row)`. -/
def makeRoomBefore (row : WorkItemRow) (toState : WorkQueueState) : StoreTransaction PUnit :=
  if toState = .failed ∧ row.state ≠ .failed then makeFailedCapacityRoom env row
  else pure ⟨⟩

def transitionProjectionInternal (row : WorkItemRow) (transition : WorkQueueTransition)
    (toState : WorkQueueState) (patch : ProjectionPatch) (nowMs : Int) :
    StoreTransaction WorkItemRow := do
  makeRoomBefore env row toState
  let nextRow ← applyProjectionPatch env row patch toState nowMs
  let seq ← appendTransitionInternal env nextRow
    (transitionDraft row transition toState patch nowMs) nowMs
  let store ← get
  match env.adapter with
  | .sqlite =>
    let touched := store.updateLastTransitionSeq row.workItemId seq nowMs
    set touched
    return (touched.getWorkItem row.workItemId).getD nextRow
  | .postgres =>
    match store.getWorkItem row.workItemId with
    | some live => return live
    | none => throw { message := "Work item projection disappeared: " ++ row.workItemId }

def releasedAt (nowMs : Int) : ProjectionPatch where
  availableAtMs := some nowMs
  leaseId := some ""
  leasedByWorkerId := some ""
  leaseExpiresAtMs := some 0

def expireEligibleLocked (nowMs : Int) (queueDefinitionId scopeKey : String) (limit : Nat) :
    StoreTransaction (List WorkItem) := do
  let store ← get
  (store.expiredWorkItems nowMs queueDefinitionId scopeKey limit).mapM fun row =>
    rowToWorkItem <$>
      transitionProjectionInternal env row .expire .expired (releasedAt nowMs) nowMs

def materializeDelayedLocked (nowMs : Int) (queueDefinitionId scopeKey : String)
    (limit : Nat) : StoreTransaction (List WorkItem) := do
  let store ← get
  (store.materializeDelayed (env.adapter = .sqlite) nowMs queueDefinitionId scopeKey
    limit).mapM fun row =>
      rowToWorkItem <$>
        transitionProjectionInternal env row .delayMatured .queued (releasedAt nowMs) nowMs

def leaseExpiredError (row : WorkItemRow) (nowMs : Int) : Json :=
  .obj [("type", .str "lease_expired"), ("leaseId", .str row.leaseId),
    ("workerId", .str row.leasedByWorkerId), ("expiredAtMs", .num (toString nowMs))]

def recoverExpiredLeasesLocked (nowMs : Int) (queueDefinitionId scopeKey : String)
    (limit : Nat) : StoreTransaction (List WorkItem) := do
  let store ← get
  (store.expiredLeases nowMs queueDefinitionId scopeKey limit).mapM fun row =>
    rowToWorkItem <$>
      transitionProjectionInternal env row .leaseExpired .inDoubt
        { lastError := some (leaseExpiredError row nowMs) } nowMs

def isTerminalReceipt (fence : SinkFence) : Bool :=
  (fence.sinkId = "complete" || fence.sinkId = "fail") && fence.status = "settled"

def terminalReceipt (store : Store) (row : WorkItemRow) : Option SinkFence :=
  (store.readSinkFence row.workItemId row.leaseSeq).find? isTerminalReceipt

def receiptState (receipt : SinkFence) : WorkQueueState :=
  if receipt.sinkId = "complete" then .completed else .failed

def sinkReceiptReconciled (row : WorkItemRow) (receipt : SinkFence) : Json :=
  .obj [("type", .str "sink_receipt_reconciled"), ("sinkId", .str receipt.sinkId),
    ("effectId", .str receipt.effectId), ("generation", .num (toString row.leaseSeq))]

def reconcileRow (nowMs : Int) (row : WorkItemRow) : StoreTransaction (Option WorkItem) := do
  let store ← get
  match terminalReceipt store row with
  | none => return none
  | some receipt =>
    let updated ← transitionProjectionInternal env row .terminationAcknowledged
      (receiptState receipt)
      { releasedAt nowMs with lastError := some (sinkReceiptReconciled row receipt) } nowMs
    return some (rowToWorkItem updated)

def reconcileInDoubtLocked (nowMs : Int) (queueDefinitionId scopeKey workItemId : String)
    (limit : Nat) : StoreTransaction (List WorkItem) := do
  let store ← get
  let reconciled ← (store.inDoubtCandidates queueDefinitionId scopeKey workItemId limit).mapM
    (reconcileRow env nowMs)
  return reconciled.filterMap id

def requireLeasedRow (workItemId leaseId : String) (nowMs : Int) :
    StoreTransaction WorkItemRow := do
  let store ← get
  match store.getWorkItem (toText workItemId) with
  | none => throw { message := "Work item not found: " ++ workItemId }
  | some row =>
    if row.state ≠ .running then
      throw { message := "Work item " ++ workItemId ++ " is not leased." }
    else if leaseId = "" ∨ row.leaseId ≠ leaseId then
      throw { message := "Lease fence rejected for work item " ++ workItemId ++ "." }
    else if 0 < row.leaseExpiresAtMs ∧ row.leaseExpiresAtMs ≤ nowMs then
      throw { message := "Lease expired for work item " ++ workItemId ++ "." }
    else return row

end LicoMesh.WorkQueue

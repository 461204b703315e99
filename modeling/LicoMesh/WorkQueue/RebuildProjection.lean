import LicoMesh.Library.Replay
import LicoMesh.Library.Path
import LicoMesh.WorkQueue.Settlement

namespace LicoMesh.WorkQueue

open Library

structure ReplayError where
  seq : Nat
  workItemId : String
  error : String

def illegalReplay (entry : JournalEntry) : ReplayError where
  seq := entry.seq
  workItemId := entry.workItemId
  error := "Illegal work queue transition: " ++ entry.transition.name

def WorkQueueTransition.isBaseline (transition : WorkQueueTransition) : Bool :=
  transition = .enqueue || transition = .retentionSnapshot

def JournalDecision.patchRow (decision : JournalDecision) (row : WorkItemRow) : WorkItemRow :=
  match decision with
  | .projectionPatch patch toState updatedAtMs =>
    { row with
      toWorkItemProjection := patch.apply toState row.toWorkItemProjection
      updatedAtMs }
  | _ => row

def replayTransition (current : Option WorkItemRow) (entry : JournalEntry) :
    Except ReplayError WorkItemRow :=
  if isLegalWorkQueueTransition entry.transition (current.map fun row => row.state)
      entry.toState then
    if entry.transition.isBaseline then
      match entry.decision with
      | .projectionRow row =>
        .ok { row with state := entry.toState, lastTransitionSeq := entry.seq }
      | _ => .error
          { seq := entry.seq
            workItemId := entry.workItemId
            error := "projection baseline event has no projectionRow" }
    else
      match current with
      | none => .error
          { seq := entry.seq
            workItemId := entry.workItemId
            error := "transition has no prior projection" }
      | some row =>
        .ok
          { entry.decision.patchRow row with
            state := entry.toState, lastTransitionSeq := entry.seq }
  else .error (illegalReplay entry)

def replayJournal (journal : Journal) : ReplayState String WorkItemRow ReplayError :=
  replay (fun entry => entry.workItemId) replayTransition journal.entries

inductive Drift
  | missingFromReplay (workItemId : String)
  | column (workItemId column : String)
  | missingFromProjection (workItemId : String)

def driftColumns (actual expected : WorkItemRow) : List String :=
  ([("state", decide (actual.state = expected.state)),
    ("attempt", decide (actual.attempt = expected.attempt)),
    ("lease_id", decide (actual.leaseId = expected.leaseId)),
    ("lease_seq", decide (actual.leaseSeq = expected.leaseSeq)),
    ("leased_by_worker_id", decide (actual.leasedByWorkerId = expected.leasedByWorkerId)),
    ("lease_expires_at_ms", decide (actual.leaseExpiresAtMs = expected.leaseExpiresAtMs)),
    ("expires_at_ms", decide (actual.expiresAtMs = expected.expiresAtMs)),
    ("available_at_ms", decide (actual.availableAtMs = expected.availableAtMs))].filter
      fun column => !column.2).map Prod.fst

def projectionDrift (store : Store) (records : List (String × WorkItemRow)) : List Drift :=
  (store.workItems.rows.flatMap fun actual =>
    match mapGet actual.workItemId records with
    | none => [.missingFromReplay actual.workItemId]
    | some expected => (driftColumns actual expected).map (.column actual.workItemId)) ++
  (records.filter fun record => (store.getWorkItem record.1).isNone).map
    fun record => .missingFromProjection record.1

structure RebuildResult where
  applied : Bool
  replayed : Nat
  journalEntries : Nat
  errors : List ReplayError
  drift : List Drift

def insertReplayed : List WorkItemRow → Store → Option Store
  | [], store => some store
  | row :: rest, store => (store.insertWorkItem row).bind (insertReplayed rest)

/-- One service counter, at zero, for every partition that has a row. -/
def rebuildVirtualFinish (store : Store) : Store :=
  store.workItems.rows.foldl (fun current row => current.upsertVirtualFinish row.partition)
    { store with virtualFinish := .empty }

/-- `rebuildSqliteProjection`; only `dryRun: false` writes. -/
def rebuildProjection (dryRun : Option Bool) : StoreTransaction RebuildResult := do
  let store ← get
  let replayed := replayJournal store.journal
  let result : RebuildResult :=
    { applied := false
      replayed := replayed.records.length
      journalEntries := store.journal.entries.length
      errors := replayed.errors
      drift := projectionDrift store replayed.records }
  if dryRun = some false ∧ replayed.errors.isEmpty then
    match insertReplayed (replayed.records.map Prod.snd) { store with workItems := .empty } with
    | none => throw uniqueConstraintFailed
    | some rebuilt =>
      set (rebuildVirtualFinish rebuilt)
      return { result with applied := true }
  else return result

inductive QueueCommand
  | enqueue (input : EnqueueInput)
  | claim (input : ClaimInput)
  | complete (input : CompleteInput)
  | retry (input : RetryInput)
  | progress (input : ProgressInput)
  | checkpoint (input : CheckpointInput)
  | expire (input : ExpireInput)
  | cancel (input : CancelInput)
  | cancelRunning (input : CancelRunningInput)
  | fail (input : FailInput)
  | recover (input : RecoverInput)
  | markInDoubt (input : MarkInDoubtInput)
  | acknowledgeTermination (input : AcknowledgeInput)
  | recordSinkReceipt (input : SinkReceiptInput)
  | reconcileInDoubt (input : ReconcileInput)
  | registerQueueDefinition (input : RegisterInput)
  | setQueueControl (input : QueueControlInput)
  | rebuildProjection (dryRun : Option Bool)

variable (env : QueueEnv)

def applyCommand (store : Store) : QueueCommand → Store
  | .enqueue input => (enqueue env input).applied store
  | .claim input => (claim env input).applied store
  | .complete input => (complete env input).applied store
  | .retry input => (retry env input).applied store
  | .progress input => (progress env input).applied store
  | .checkpoint input => (checkpoint env input).applied store
  | .expire input => (expire env input).applied store
  | .cancel input => (cancel env input).applied store
  | .cancelRunning input => (cancelRunning env input).applied store
  | .fail input => (fail env input).applied store
  | .recover input => (recover env input).applied store
  | .markInDoubt input => (markInDoubt env input).applied store
  | .acknowledgeTermination input => (acknowledgeTermination env input).applied store
  | .recordSinkReceipt input => (recordSinkReceipt input).applied store
  | .reconcileInDoubt input => (reconcileInDoubt env input).applied store
  | .registerQueueDefinition input => (registerQueueDefinition input).applied store
  | .setQueueControl input => (setQueueControl input).applied store
  | .rebuildProjection dryRun => (rebuildProjection dryRun).applied store

def runCommands (store : Store) (commands : List QueueCommand) : Store :=
  runAll (applyCommand env) store commands

end LicoMesh.WorkQueue

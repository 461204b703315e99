import LicoMesh.WorkQueue.RebuildProjection

namespace LicoMesh.WorkQueue

open Library

/-! The store as a transition system. A command is a path of effects, each of
which writes a row together with its journal; the invariants of the store are
proved once for each effect. -/

variable {row : WorkItemRow} {nowMs : Int}

inductive Effect
  | enroll (row : WorkItemRow) (policy : QueuePolicy) (nowMs : Int)
  | move (row : WorkItemRow) (transition : WorkQueueTransition) (toState : WorkQueueState)
      (patch : ProjectionPatch) (nowMs : Int)
  | checkpoint (row : WorkItemRow) (checkpoint : WorkItemCheckpoint) (nowMs : Int)
  | compact (row : WorkItemRow) (nowMs : Int)
  | retire (row : WorkItemRow)
  | promote (row : WorkItemRow) (priorityClass : WorkQueuePriorityClass) (nowMs : Int)
  | touch (workItemId : String) (seq : Nat) (nowMs : Int)
  | serve (key : PartitionKey)
  | idle (queueDefinitionId scopeKey : String)
  | fence (fence : SinkFence)
  | define (definition : QueueDefinition)
  | bookkeep
  | rebuild

structure WorkItemRow.IsNew (row : WorkItemRow) : Prop where
  state : row.state = .queued ∨ row.state = .retryWait
  attempt : row.attempt = 0
  maxAttempts : 1 ≤ row.maxAttempts
  leaseId : row.leaseId = ""
  leaseSeq : row.leaseSeq = 0
  leasedByWorkerId : row.leasedByWorkerId = ""
  leaseExpiresAtMs : row.leaseExpiresAtMs = 0
  checkpoint : row.checkpoint = noCheckpoint

structure ProjectionPatch.Releases (patch : ProjectionPatch) (row : WorkItemRow) : Prop where
  leaseId : patch.leaseId = some ""
  leasedByWorkerId : patch.leasedByWorkerId = some ""
  leaseExpiresAtMs : patch.leaseExpiresAtMs = some 0
  attempt : patch.attempt = none ∨ patch.attempt = some row.attempt
  leaseSeq : patch.leaseSeq = none

variable (env : QueueEnv)

inductive MoveGuard (store : Store) (row : WorkItemRow) :
    WorkQueueTransition → WorkQueueState → ProjectionPatch → Prop
  | claimed (lease : WorkItemLease) (policy : QueuePolicy)
      (attempts : row.attempt < row.maxAttempts)
      (leaseId : lease.leaseId ≠ "" ∧ toText lease.leaseId = lease.leaseId)
      (leaseSeq : lease.leaseSeq = row.leaseSeq + 1)
      (deadline : 0 < row.expiresAtMs → lease.expiresAtMs ≤ row.expiresAtMs)
      (resolved : policyForRow env store row = .ok policy)
      (capacity : withinLeaseLimits store row.queueDefinitionId row.toHierarchy policy.capacity)
      (concurrency : store.concurrencyFree row) :
      MoveGuard store row .claim .running (claimPatch row lease)
  | renewed (expiresAtMs : Int) (deadline : 0 < row.expiresAtMs → expiresAtMs ≤ row.expiresAtMs) :
      MoveGuard store row .progress .running { leaseExpiresAtMs := some expiresAtMs }
  | doubted (transition : WorkQueueTransition) (lastError : Json)
      (interrupts : transition = .interrupt ∨ transition = .leaseExpired) :
      MoveGuard store row transition .inDoubt { lastError := some lastError }
  | released (transition : WorkQueueTransition) (toState : WorkQueueState)
      (patch : ProjectionPatch) (unleased : toState.isLeased = false)
      (unclaimed : transition ≠ .claim) (releases : patch.Releases row)
      (admitted : transition = .recover → ∃ policy, policyForRow env store row = .ok policy ∧
        assertAdmissionCapacity store row.queueDefinitionId row.toHierarchy .recovered policy =
          .ok ()) : MoveGuard store row transition toState patch

def Store.moveRow (store : Store) (row : WorkItemRow) (transition : WorkQueueTransition)
    (toState : WorkQueueState) (patch : ProjectionPatch) (nowMs : Int) : Store :=
  (store.updateStateProjection row.workItemId (patch.apply toState row.toWorkItemProjection)
    nowMs).appendJournal (transitionDraft row transition toState patch nowMs) nowMs

open Store

def Store.checkpointRow (store : Store) (row : WorkItemRow) (checkpoint : WorkItemCheckpoint)
    (nowMs : Int) : Store :=
  (store.updateCheckpoint row.workItemId checkpoint nowMs).appendJournal
    (checkpointDraft row checkpoint.digest checkpoint.seq) nowMs

def Store.admitRow (inserted : Store) (row : WorkItemRow) (nowMs : Int) : Store :=
  (inserted.upsertVirtualFinish row.partition).appendJournal (enqueueDraft row) nowMs

inductive Step : Store → Effect → Store → Prop
  | enroll {store inserted : Store} {row : WorkItemRow} {policy : QueuePolicy} {nowMs : Int}
      (inserts : store.insertWorkItem row = some inserted) (isNew : row.IsNew)
      (admitted : assertAdmissionCapacity store row.queueDefinitionId row.toHierarchy row.state
        policy = .ok ()) : Step store (.enroll row policy nowMs) (inserted.admitRow row nowMs)
  | move {store : Store} {row : WorkItemRow} {transition : WorkQueueTransition}
      {toState : WorkQueueState} {patch : ProjectionPatch} {nowMs : Int}
      (found : store.getWorkItem row.workItemId = some row)
      (legal : isLegalWorkQueueTransition transition (some row.state) toState)
      (guard : MoveGuard env store row transition toState patch) :
      Step store (.move row transition toState patch nowMs)
        (store.moveRow row transition toState patch nowMs)
  | checkpoint {store : Store} {row : WorkItemRow} {checkpoint : WorkItemCheckpoint}
      {nowMs : Int} (found : store.getWorkItem row.workItemId = some row)
      (running : row.state = .running) :
      Step store (.checkpoint row checkpoint nowMs) (store.checkpointRow row checkpoint nowMs)
  | compact {store : Store} {row : WorkItemRow} {nowMs : Int}
      (found : store.getWorkItem row.workItemId = some row) :
      Step store (.compact row nowMs) (insertRetentionSnapshot row nowMs store)
  | retire {store : Store} {row : WorkItemRow}
      (found : store.getWorkItem row.workItemId = some row)
      (closed : row.state.isTerminal ∨ row.state = .failed) :
      Step store (.retire row) (store.removeItem row.workItemId)
  | promote {store : Store} {row : WorkItemRow} {priorityClass : WorkQueuePriorityClass}
      {nowMs : Int} (found : store.getWorkItem row.workItemId = some row) :
      Step store (.promote row priorityClass nowMs)
        (store.updatePriorityClass row.workItemId priorityClass nowMs)
  | touch {store : Store} {workItemId : String} {seq : Nat} {nowMs : Int} :
      Step store (.touch workItemId seq nowMs)
        (store.updateLastTransitionSeq workItemId seq nowMs)
  | serve {store : Store} {key : PartitionKey} :
      Step store (.serve key) (store.advanceVirtualFinish key)
  | idle {store : Store} {queueDefinitionId scopeKey : String}
      (closed : store.hasNonterminalInBoundary queueDefinitionId scopeKey = false) :
      Step store (.idle queueDefinitionId scopeKey)
        (store.deleteVirtualFinishByBoundary queueDefinitionId scopeKey)
  | fence {store : Store} {fence : SinkFence} :
      Step store (.fence fence) (store.insertSinkFence fence)
  | define {store : Store} {definition : QueueDefinition} : Step store (.define definition)
        { store with definitions := store.definitions.insertOrIgnore definition }
  | bookkeep {store next : Store} (workItems : next.workItems = store.workItems)
      (journal : next.journal = store.journal)
      (virtualFinish : next.virtualFinish = store.virtualFinish)
      (sinkFences : next.sinkFences = store.sinkFences)
      (definitions : next.definitions = store.definitions) : Step store .bookkeep next
  | rebuild {store rebuilt : Store} (errors : (replayJournal store.journal).errors = [])
      (inserts : insertReplayed ((replayJournal store.journal).records.map Prod.snd)
        { store with workItems := .empty } = some rebuilt) :
      Step store .rebuild (rebuildVirtualFinish rebuilt)

namespace Effect

/-- Retention and bookkeeping around a transition of the item `kept`. -/
def IsHousekeeping (kept : String) : Effect → Prop
  | .compact _ _ | .touch _ _ _ | .bookkeep => True
  | .retire row => row.workItemId ≠ kept
  | _ => False

def KeepsCounters : Effect → Prop
  | .enroll _ _ _ | .serve _ | .idle _ _ | .rebuild => False
  | _ => True

end Effect

variable {env : QueueEnv}

theorem Step.virtualFinish_eq (step : Step env store effect next) (keeps : effect.KeepsCounters) :
    next.virtualFinish = store.virtualFinish := by
  cases step with
  | bookkeep _ _ virtualFinish _ _ => exact virtualFinish
  | enroll | serve | idle | rebuild => exact keeps.elim
  | move | checkpoint | compact | retire | promote | touch | fence | define => rfl

theorem Path.virtualFinish_eq {store next : Store}
    (path : Path (Step env) (fun _ effect => effect.KeepsCounters) store next) :
    next.virtualFinish = store.virtualFinish := by
  induction path with
  | refl => rfl
  | step _ permission head _ induction =>
    exact induction.trans (head.virtualFinish_eq permission)

section Rows

variable {store : Store} (found : store.getWorkItem row.workItemId = some row)
include found

theorem getWorkItem_moveRow (other : String) :
    (store.moveRow row transition toState patch nowMs).getWorkItem other =
      if other = row.workItemId then
        some
          { row with
            toWorkItemProjection := patch.apply toState row.toWorkItemProjection
            lastTransitionSeq := store.journal.lastSeq + 1
            updatedAtMs := nowMs }
      else store.getWorkItem other := by
  unfold moveRow
  rw [getWorkItem_appendJournal]
  have updated := @getWorkItem_modifyWorkItem store row.workItemId
    (fun current =>
      { current with
        toWorkItemProjection := patch.apply toState row.toWorkItemProjection
        updatedAtMs := nowMs }) (fun _ => rfl) other
  by_cases same : other = row.workItemId
  · have target : other = (transitionDraft row transition toState patch nowMs).workItemId := same
    rw [if_pos target, if_pos same]
    rw [if_pos same, found] at updated
    simp only [updateStateProjection, updated, Option.map_some]
    rfl
  · have target : ¬ other = (transitionDraft row transition toState patch nowMs).workItemId :=
      same
    rw [if_neg target, if_neg same]
    rw [if_neg same] at updated
    exact updated

theorem getWorkItem_checkpointRow {checkpoint : WorkItemCheckpoint} (other : String) :
    (store.checkpointRow row checkpoint nowMs).getWorkItem other =
      if other = row.workItemId then
        some
          { row with
            checkpoint
            lastTransitionSeq := store.journal.lastSeq + 1
            updatedAtMs := nowMs }
      else store.getWorkItem other := by
  unfold checkpointRow
  rw [getWorkItem_appendJournal]
  have updated := @getWorkItem_modifyWorkItem store row.workItemId
    (fun current => { current with checkpoint, updatedAtMs := nowMs }) (fun _ => rfl) other
  by_cases same : other = row.workItemId
  · have target : other = (checkpointDraft row checkpoint.digest checkpoint.seq).workItemId :=
      same
    rw [if_pos target, if_pos same]
    rw [if_pos same, found] at updated
    simp only [updateCheckpoint, updated, Option.map_some]
    rfl
  · have target : ¬ other = (checkpointDraft row checkpoint.digest checkpoint.seq).workItemId :=
      same
    rw [if_neg target, if_neg same]
    rw [if_neg same] at updated
    exact updated

theorem getWorkItem_insertRetentionSnapshot (other : String) :
    (insertRetentionSnapshot row nowMs store).getWorkItem other =
      if other = row.workItemId then
        some { row with lastTransitionSeq := store.journal.lastSeq + 1, updatedAtMs := nowMs }
      else store.getWorkItem other := by
  unfold insertRetentionSnapshot
  rw [getWorkItem_appendJournal]
  by_cases same : other = row.workItemId
  · have target : other = (retentionSnapshot row).workItemId := same
    rw [if_pos target, if_pos same]
    have present : (store.deleteJournalByWorkItem row.workItemId).getWorkItem other =
        some row := by
      rw [same]
      exact found
    rw [present]
    rfl
  · have target : ¬ other = (retentionSnapshot row).workItemId := same
    rw [if_neg target, if_neg same]
    rfl

omit found

theorem getWorkItem_admitRow (inserts : store.insertWorkItem row = some inserted) (other : String) :
    (inserted.admitRow row nowMs).getWorkItem other =
      if other = row.workItemId then
        some { row with lastTransitionSeq := store.journal.lastSeq + 1, updatedAtMs := nowMs }
      else store.getWorkItem other := by
  unfold admitRow
  rw [getWorkItem_appendJournal]
  have present : (inserted.upsertVirtualFinish row.partition).getWorkItem other =
      inserted.getWorkItem other := rfl
  have journal : inserted.journal = store.journal := by
    rw [(insertWorkItem_fresh inserts).2.1]
  have lastSeq : (inserted.upsertVirtualFinish row.partition).journal.lastSeq =
      store.journal.lastSeq := by
    rw [← journal]
    rfl
  rw [present, getWorkItem_of_insertWorkItem inserts, lastSeq]
  by_cases same : other = row.workItemId
  · have target : other = (enqueueDraft row).workItemId := same
    rw [if_pos target, if_pos same, if_pos same]
    rfl
  · have target : ¬ other = (enqueueDraft row).workItemId := same
    rw [if_neg target, if_neg same, if_neg same]

include found in
theorem getWorkItem_updatePriorityClass (other : String) :
    (store.updatePriorityClass row.workItemId priorityClass nowMs).getWorkItem other =
      if other = row.workItemId then some { row with priorityClass, updatedAtMs := nowMs }
      else store.getWorkItem other := by
  unfold updatePriorityClass
  rw [getWorkItem_modifyWorkItem, found]
  rfl

theorem getWorkItem_updateLastTransitionSeq (workItemId : String) (seq : Nat) (nowMs : Int)
    (other : String) : (store.updateLastTransitionSeq workItemId seq nowMs).getWorkItem other =
      if other = workItemId then
        (store.getWorkItem workItemId).map fun row =>
          { row with lastTransitionSeq := seq, updatedAtMs := nowMs }
      else store.getWorkItem other :=
  getWorkItem_modifyWorkItem ..

end Rows

end LicoMesh.WorkQueue

import LicoMesh.Library.Table
import LicoMesh.WorkQueue.JsonText
import LicoMesh.WorkQueue.StateMachine

namespace LicoMesh.WorkQueue

open Library

/-! The columns of a work item, by who writes them: the request is fixed at
enqueue, the projection is rewritten by every transition, the checkpoint by
checkpoint commands only. -/

structure WorkItemRequest extends Hierarchy where
  workItemId : String
  queueDefinitionId : String
  queueDefinitionVersion : Nat
  scopeKey : String
  scope : QueueScope
  dedupeKey : String
  ownerRefJson : String
  payloadRefJson : String
  payloadKind : String
  priority : Int
  expiresAtMs : Int
  concurrencyKey : String
  routeVersion : String
  policyVersion : String
  createdAtMs : Int

structure WorkItemProjection where
  state : WorkQueueState
  availableAtMs : Int
  attempt : Nat
  maxAttempts : Nat
  leaseId : String
  leaseSeq : Nat
  leasedByWorkerId : String
  leaseExpiresAtMs : Int
  fallbackTaskId : String
  lastError : Json

structure WorkItemCheckpoint where
  refJson : String
  digest : String
  seq : Nat
  updatedAtMs : Int

structure WorkItemRow extends WorkItemRequest, WorkItemProjection where
  priorityClass : WorkQueuePriorityClass
  checkpoint : WorkItemCheckpoint
  lastTransitionSeq : Nat
  updatedAtMs : Int

def noCheckpoint : WorkItemCheckpoint where
  refJson := "\x7b\x7d"
  digest := ""
  seq := 0
  updatedAtMs := 0

/-- The columns a transition sets besides the state; `none` keeps the column. -/
structure ProjectionPatch where
  availableAtMs : Option Int := none
  attempt : Option Nat := none
  leaseId : Option String := none
  leaseSeq : Option Nat := none
  leasedByWorkerId : Option String := none
  leaseExpiresAtMs : Option Int := none
  fallbackTaskId : Option String := none
  lastError : Option Json := none

/-- `{ ...projection, ...patch, state: toState }`. -/
def ProjectionPatch.apply (patch : ProjectionPatch) (toState : WorkQueueState)
    (projection : WorkItemProjection) : WorkItemProjection where
  state := toState
  availableAtMs := patch.availableAtMs.getD projection.availableAtMs
  attempt := patch.attempt.getD projection.attempt
  maxAttempts := projection.maxAttempts
  leaseId := patch.leaseId.getD projection.leaseId
  leaseSeq := patch.leaseSeq.getD projection.leaseSeq
  leasedByWorkerId := patch.leasedByWorkerId.getD projection.leasedByWorkerId
  leaseExpiresAtMs := patch.leaseExpiresAtMs.getD projection.leaseExpiresAtMs
  fallbackTaskId := patch.fallbackTaskId.getD projection.fallbackTaskId
  lastError := patch.lastError.getD projection.lastError

/-- `decision_json`. -/
inductive JournalDecision
  | projectionRow (row : WorkItemRow)
  | projectionPatch (patch : ProjectionPatch) (toState : WorkQueueState) (updatedAtMs : Int)
  | checkpoint (checkpointDigest : String) (checkpointSeq : Nat)

structure JournalDraft where
  workItemId : String
  queueDefinitionId : String
  queueDefinitionVersion : Nat
  transition : WorkQueueTransition
  fromState : Option WorkQueueState
  toState : WorkQueueState
  leaseId : String
  leaseSeq : Nat
  decision : JournalDecision

structure JournalEntry extends JournalDraft where
  seq : Nat

/-- The journal in `seq` order; `seq` is `AUTOINCREMENT`, so no number is reused. -/
structure Journal where
  entries : List JournalEntry
  lastSeq : Nat
  ordered : entries.Pairwise fun earlier later => earlier.seq < later.seq
  bounded : ∀ entry ∈ entries, entry.seq ≤ lastSeq

namespace Journal

def empty : Journal := ⟨[], 0, .nil, by simp⟩

def insert (journal : Journal) (draft : JournalDraft) : Journal where
  entries := journal.entries ++ [⟨draft, journal.lastSeq + 1⟩]
  lastSeq := journal.lastSeq + 1
  ordered := by
    rw [List.pairwise_append]
    refine ⟨journal.ordered, by simp, ?_⟩
    intro earlier hearlier later hlater
    have hlater : later = ⟨draft, journal.lastSeq + 1⟩ := by simpa using hlater
    have := journal.bounded earlier hearlier
    rw [hlater]
    simp only
    omega
  bounded := by
    intro entry member
    rcases List.mem_append.mp member with earlier | last
    · have := journal.bounded entry earlier
      omega
    · have last : entry = ⟨draft, journal.lastSeq + 1⟩ := by simpa using last
      rw [last]

def deleteByWorkItem (journal : Journal) (workItemId : String) : Journal where
  entries := journal.entries.filter fun entry => entry.workItemId ≠ workItemId
  lastSeq := journal.lastSeq
  ordered := journal.ordered.sublist List.filter_sublist
  bounded := fun entry member => journal.bounded entry (List.mem_filter.mp member).1

def ofItem (journal : Journal) (workItemId : String) : List JournalEntry :=
  journal.entries.filter fun entry => entry.workItemId = workItemId

variable (journal : Journal)
include journal

@[simp] theorem entries_insert (draft : JournalDraft) : (journal.insert draft).entries =
      journal.entries ++ [⟨draft, journal.lastSeq + 1⟩] := rfl

@[simp] theorem entries_deleteByWorkItem (workItemId : String) :
    (journal.deleteByWorkItem workItemId).entries =
      journal.entries.filter fun entry => entry.workItemId ≠ workItemId := rfl

theorem ofItem_insert (draft : JournalDraft) (workItemId : String) :
    (journal.insert draft).ofItem workItemId =
      if draft.workItemId = workItemId then
        journal.ofItem workItemId ++ [⟨draft, journal.lastSeq + 1⟩]
      else journal.ofItem workItemId := by
  by_cases same : draft.workItemId = workItemId
  · simp [ofItem, List.filter_append, same]
  · simp [ofItem, List.filter_append, same]

theorem ofItem_deleteByWorkItem (deleted workItemId : String) :
    (journal.deleteByWorkItem deleted).ofItem workItemId =
      if deleted = workItemId then [] else journal.ofItem workItemId := by
  simp only [ofItem, entries_deleteByWorkItem, List.filter_filter]
  by_cases same : deleted = workItemId
  · simp [same]
  · rw [if_neg same]
    refine List.filter_congr ?_
    intro entry _
    by_cases hentry : entry.workItemId = workItemId
    · simp [hentry, Ne.symm same]
    · simp [hentry]

end Journal

structure PartitionKey extends Hierarchy where
  queueDefinitionId : String
  queueDefinitionVersion : Nat
  selectorScopeKey : String
  priorityClass : WorkQueuePriorityClass
  deriving DecidableEq

/-- `work_queue_virtual_finish`: the service a partition has received. -/
structure VirtualFinishRow extends PartitionKey where
  virtualFinish : Nat

structure SinkFenceKey where
  workItemId : String
  generation : Int
  sinkId : String
  deriving DecidableEq

/-- `work_queue_sink_fences`. -/
structure SinkFence extends SinkFenceKey where
  effectId : String
  status : String
  settledAtMs : Int

structure RetentionState where
  queueDefinitionId : String
  pendingTransitions : Nat

inductive QueueControlMode
  | active
  | paused
  | draining
  deriving DecidableEq

structure QueueControlKey where
  queueDefinitionId : String
  scopeKey : String
  deriving DecidableEq

structure QueueControl extends QueueControlKey where
  mode : QueueControlMode
  reason : String
  updatedAtMs : Int

structure QueueDefinitionKey where
  queueDefinitionId : String
  queueDefinitionVersion : Nat
  deriving DecidableEq

/-- `queue_definitions`. -/
structure QueueDefinition extends QueueDefinitionKey where
  label : String
  lifecycleState : String
  ownerCapability : String
  allowDeprecatedEnqueue : Bool
  metadata : Json
  policy : PolicyInput
  routes : Json
  labelHistory : Json

structure Store where
  definitions : Table QueueDefinitionKey QueueDefinition (fun row => row.toQueueDefinitionKey)
  workItems : Table String WorkItemRow (fun row => row.workItemId)
  journal : Journal
  virtualFinish : Table PartitionKey VirtualFinishRow (fun row => row.toPartitionKey)
  sinkFences : Table SinkFenceKey SinkFence (fun row => row.toSinkFenceKey)
  retentionState : Table String RetentionState (fun row => row.queueDefinitionId)
  controls : Table QueueControlKey QueueControl (fun row => row.toQueueControlKey)

def Store.empty : Store where
  definitions := .empty
  workItems := .empty
  journal := .empty
  virtualFinish := .empty
  sinkFences := .empty
  retentionState := .empty
  controls := .empty

def WorkItemRow.partition (row : WorkItemRow) : PartitionKey where
  toHierarchy := row.toHierarchy
  queueDefinitionId := row.queueDefinitionId
  queueDefinitionVersion := row.queueDefinitionVersion
  selectorScopeKey := row.scopeKey
  priorityClass := row.priorityClass

structure WorkItem extends Hierarchy, WorkItemProjection where
  workItemId : String
  queueDefinitionId : String
  queueDefinitionVersion : Nat
  scopeKey : String
  scope : QueueScope
  dedupeKey : String
  ownerRef : Json
  payloadRef : Json
  payloadKind : String
  priority : Int
  priorityClass : WorkQueuePriorityClass
  expiresAtMs : Int
  concurrencyKey : String
  routeVersion : String
  policyVersion : String
  checkpoint : Option WorkItemCheckpoint
  createdAtMs : Int
  updatedAtMs : Int
  lastTransitionSeq : Nat

def rowToWorkItem (row : WorkItemRow) : WorkItem where
  toHierarchy := row.toHierarchy
  toWorkItemProjection := row.toWorkItemProjection
  workItemId := row.workItemId
  queueDefinitionId := row.queueDefinitionId
  queueDefinitionVersion := row.queueDefinitionVersion
  scopeKey := row.scopeKey
  scope := row.scope
  dedupeKey := row.dedupeKey
  ownerRef := parseJson row.ownerRefJson .emptyObject
  payloadRef := parseJson row.payloadRefJson .emptyObject
  payloadKind := row.payloadKind
  priority := row.priority
  priorityClass := row.priorityClass
  expiresAtMs := row.expiresAtMs
  concurrencyKey := row.concurrencyKey
  routeVersion := row.routeVersion
  policyVersion := row.policyVersion
  checkpoint := if 0 < row.checkpoint.seq then some row.checkpoint else none
  createdAtMs := row.createdAtMs
  updatedAtMs := row.updatedAtMs
  lastTransitionSeq := row.lastTransitionSeq

end LicoMesh.WorkQueue

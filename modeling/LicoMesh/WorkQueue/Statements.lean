import LicoMesh.WorkQueue.Schema
import Mathlib.Data.List.MinMax
import Mathlib.Data.Prod.Lex
import Mathlib.Data.String.Basic

namespace LicoMesh.WorkQueue

open Library

variable {row : WorkItemRow}

/-- `ORDER BY … LIMIT`; rows with equal keys keep their table order. -/
def selectRows {ρ : Type} (rows : List ρ) (condition : ρ → Bool) (le : ρ → ρ → Bool)
    (limit : Nat) : List ρ :=
  ((rows.filter condition).insertionSort fun a b => le a b).take limit

/-- `SELECT COUNT(*) FROM (SELECT 1 … LIMIT limit + 1)`. -/
def boundedCount {ρ : Type} (rows : List ρ) (condition : ρ → Bool) (limit : Nat) : Nat :=
  min (rows.countP condition) (limit + 1)

def isWorkExpired (row : WorkItemRow) (nowMs : Int) : Bool :=
  decide (0 < row.expiresAtMs) && decide (row.expiresAtMs ≤ nowMs)

def leByTimes (time : WorkItemRow → Int) (a b : WorkItemRow) : Bool :=
  decide (time a < time b) || (decide (time a = time b) && decide (a.createdAtMs ≤ b.createdAtMs))

def leByUpdate (a b : WorkItemRow) : Bool :=
  decide (a.updatedAtMs < b.updatedAtMs) ||
    (decide (a.updatedAtMs = b.updatedAtMs) && decide (¬ b.workItemId < a.workItemId))

def leByAvailability (a b : WorkItemRow) : Bool :=
  decide (a.availableAtMs < b.availableAtMs) || (decide (a.availableAtMs = b.availableAtMs) &&
      (decide (a.createdAtMs < b.createdAtMs) ||
        (decide (a.createdAtMs = b.createdAtMs) && decide (¬ b.workItemId < a.workItemId))))

/-- What `fairRankedCandidate` is asked for; version 0 selects every version. -/
structure FairSelector where
  queueDefinitionId : String
  queueDefinitionVersion : Nat
  selectorScopeKey : String
  nowMs : Int
  fixed : Hierarchy

namespace FairSelector

def matchesVersion (selector : FairSelector) (version : Nat) : Bool :=
  selector.queueDefinitionVersion = 0 || version = selector.queueDefinitionVersion

end FairSelector

namespace Store

variable (store : Store)

def getWorkItem (workItemId : String) : Option WorkItemRow := store.workItems.find? workItemId

def getDefinitionPolicy (queueDefinitionId : String) (version : Nat) : PolicyInput :=
  (store.definitions.find? ⟨queueDefinitionId, version⟩).elim {} fun row => row.policy

def getLatestDefinitionPolicy (queueDefinitionId : String) (version : Nat) : PolicyInput :=
  let matching := store.definitions.rows.filter fun row =>
    row.queueDefinitionId = queueDefinitionId &&
      (version = 0 || row.queueDefinitionVersion = version)
  (matching.argmax fun row => row.queueDefinitionVersion).elim {} fun row => row.policy

def getLastTransition (workItemId : String) : Option JournalEntry :=
  (store.journal.ofItem workItemId).getLast?

def getDedupe (queueDefinitionId scopeKey dedupeKey : String) : Option WorkItemRow :=
  (selectRows store.workItems.rows
    (fun row => row.queueDefinitionId = queueDefinitionId && row.scopeKey = scopeKey &&
      row.dedupeKey = dedupeKey && row.dedupeKey ≠ "")
    (fun a b => decide (a.createdAtMs ≤ b.createdAtMs)) 1).head?

def getQueueControl (queueDefinitionId scopeKey : String) : Option QueueControl :=
  store.controls.find? ⟨queueDefinitionId, scopeKey⟩

def inSweep (queueDefinitionId scopeKey : String) (row : WorkItemRow) : Bool :=
  (queueDefinitionId = "" || row.queueDefinitionId = queueDefinitionId) &&
    (scopeKey = "" || row.scopeKey = scopeKey)

def expiredWorkItems (nowMs : Int) (queueDefinitionId scopeKey : String) (limit : Nat) :
    List WorkItemRow :=
  selectRows store.workItems.rows
    (fun row => row.state.isOutstanding && isWorkExpired row nowMs &&
      inSweep queueDefinitionId scopeKey row)
    (leByTimes fun row => row.expiresAtMs) limit

def expiredLeases (nowMs : Int) (queueDefinitionId scopeKey : String) (limit : Nat) :
    List WorkItemRow :=
  selectRows store.workItems.rows
    (fun row => row.state = .running && decide (0 < row.leaseExpiresAtMs) &&
      decide (row.leaseExpiresAtMs ≤ nowMs) && inSweep queueDefinitionId scopeKey row)
    (leByTimes fun row => row.leaseExpiresAtMs) limit

/-- The rows a delayed sweep of the SQLite adapter matures skip past-deadline
items; the PostgreSQL statement lacks that condition. -/
def materializeDelayed (skipExpired : Bool) (nowMs : Int)
    (queueDefinitionId scopeKey : String) (limit : Nat) : List WorkItemRow :=
  selectRows store.workItems.rows
    (fun row => row.state = .retryWait && decide (row.availableAtMs ≤ nowMs) &&
      !(skipExpired && !(row.expiresAtMs = 0 || decide (nowMs < row.expiresAtMs))) &&
      inSweep queueDefinitionId scopeKey row)
    (leByTimes fun row => row.availableAtMs) limit

def inDoubtCandidates (queueDefinitionId scopeKey workItemId : String) (limit : Nat) :
    List WorkItemRow :=
  selectRows store.workItems.rows
    (fun row => row.state = .inDoubt && inSweep queueDefinitionId scopeKey row &&
      (workItemId = "" || row.workItemId = workItemId))
    (leByTimes fun row => row.leaseExpiresAtMs) limit

def readSinkFence (workItemId : String) (generation : Int) : List SinkFence :=
  (store.sinkFences.rows.filter fun fence =>
    fence.workItemId = workItemId && fence.generation = generation).insertionSort
      fun a b => decide (¬ b.sinkId < a.sinkId)

def agedCandidates (queueDefinitionId : String) (version : Nat) (scopeKey : String)
    (agingThresholdMs : Int) (limit : Nat) : List WorkItemRow :=
  selectRows store.workItems.rows
    (fun row => row.queueDefinitionId = queueDefinitionId &&
      (version = 0 || row.queueDefinitionVersion = version) && row.scopeKey = scopeKey &&
      row.state.isClaimable && row.priorityClass ≠ .critical &&
      decide (row.availableAtMs ≤ agingThresholdMs))
    leByAvailability limit

def countOutstanding (queueDefinitionId : String) (filter : Hierarchy) (limit : Nat) : Nat :=
  boundedCount store.workItems.rows
    (fun row => row.queueDefinitionId = queueDefinitionId && row.state.isOutstanding &&
      filter.admits row.toHierarchy) limit

def countStateByHierarchy (queueDefinitionId : String) (state : WorkQueueState)
    (filter : Hierarchy) (limit : Nat) : Nat :=
  boundedCount store.workItems.rows
    (fun row => row.queueDefinitionId = queueDefinitionId && row.state = state &&
      filter.admits row.toHierarchy) limit

def countRetainedState (queueDefinitionId : String) (state : WorkQueueState) (limit : Nat) : Nat :=
  boundedCount store.workItems.rows
    (fun row => row.queueDefinitionId = queueDefinitionId && row.state = state) limit

def countRetainedTerminal (queueDefinitionId : String) (limit : Nat) : Nat :=
  boundedCount store.workItems.rows
    (fun row => row.queueDefinitionId = queueDefinitionId && row.state.isTerminal) limit

def countJournalByQueue (queueDefinitionId : String) (limit : Nat) : Nat :=
  boundedCount store.journal.entries
    (fun entry => entry.queueDefinitionId = queueDefinitionId) limit

def countJournalByWorkItem (workItemId : String) : Nat := (store.journal.ofItem workItemId).length

def hasNonterminalInBoundary (queueDefinitionId scopeKey : String) : Bool :=
  store.workItems.rows.any fun row => row.queueDefinitionId = queueDefinitionId &&
    row.scopeKey = scopeKey && !row.state.isTerminal

def oldestFailedItems (queueDefinitionId excludeWorkItemId : String) (limit : Nat) :
    List WorkItemRow :=
  selectRows store.workItems.rows
    (fun row => row.queueDefinitionId = queueDefinitionId && row.state = .failed &&
      row.workItemId ≠ excludeWorkItemId) leByUpdate limit

def oldestTerminalItems (queueDefinitionId excludeWorkItemId : String) (limit : Nat) :
    List WorkItemRow :=
  selectRows store.workItems.rows
    (fun row => row.queueDefinitionId = queueDefinitionId && row.state.isTerminal &&
      row.workItemId ≠ excludeWorkItemId) leByUpdate limit

def oldestJournalCandidates (queueDefinitionId excludeWorkItemId : String) (limit : Nat) :
    List String :=
  ((store.journal.entries.filter fun entry =>
    entry.queueDefinitionId = queueDefinitionId &&
      entry.workItemId ≠ excludeWorkItemId).take limit).map fun entry => entry.workItemId

def isWaiting (queueDefinitionId scopeKey : String) (nowMs : Int) (row : WorkItemRow) : Bool :=
  row.queueDefinitionId = queueDefinitionId && row.scopeKey = scopeKey &&
    row.state.isClaimable && decide (row.availableAtMs ≤ nowMs) &&
    (row.expiresAtMs = 0 || decide (nowMs < row.expiresAtMs))

/-- The three `countUnderReserved…` statements: the distinct sibling levels with a
waiting item and fewer than `reservation` running ones. -/
def countUnderReserved (queueDefinitionId scopeKey : String) (nowMs : Int)
    (sibling : Hierarchy → Bool) (level : Hierarchy → Hierarchy) (reservation limit : Nat) : Nat :=
  let waiting := store.workItems.rows.filter fun row =>
    isWaiting queueDefinitionId scopeKey nowMs row && sibling row.toHierarchy
  let siblings := (waiting.map fun row => level row.toHierarchy).dedup
  let underReserved := siblings.filter fun position =>
    decide ((store.workItems.rows.countP fun row =>
      row.queueDefinitionId = queueDefinitionId && row.state = .running &&
        level row.toHierarchy = position) < reservation)
  min underReserved.length limit

def countUnderReservedTenants (queueDefinitionId scopeKey : String) (nowMs : Int)
    (position : Hierarchy) (reservation limit : Nat) : Nat :=
  store.countUnderReserved queueDefinitionId scopeKey nowMs
    (fun other => other.tenantId ≠ position.tenantId) .tenantLevel reservation limit

def countUnderReservedWorkspaces (queueDefinitionId scopeKey : String) (nowMs : Int)
    (position : Hierarchy) (reservation limit : Nat) : Nat :=
  store.countUnderReserved queueDefinitionId scopeKey nowMs
    (fun other => other.tenantId = position.tenantId &&
      other.workspaceId ≠ position.workspaceId) .workspaceLevel reservation limit

def countUnderReservedProjects (queueDefinitionId scopeKey : String) (nowMs : Int)
    (position : Hierarchy) (reservation limit : Nat) : Nat :=
  store.countUnderReserved queueDefinitionId scopeKey nowMs
    (fun other => other.tenantId = position.tenantId &&
      other.workspaceId = position.workspaceId && other.projectId ≠ position.projectId)
    id reservation limit

def virtualFinishTotal (queueDefinitionId : String) (version : Nat) (scopeKey : String) : Nat :=
  ((store.virtualFinish.rows.filter fun row =>
    row.queueDefinitionId = queueDefinitionId && row.selectorScopeKey = scopeKey &&
      (version = 0 || row.queueDefinitionVersion = version)).map
        fun row => row.virtualFinish).sum

def concurrencyFree (row : WorkItemRow) : Bool :=
  !store.workItems.rows.any fun active =>
    active.queueDefinitionId = row.queueDefinitionId && active.scopeKey = row.scopeKey &&
      active.concurrencyKey = row.concurrencyKey && active.concurrencyKey ≠ "" &&
      active.state = .running && active.workItemId ≠ row.workItemId

/-- The `pending` item conditions of `fairRankedCandidate` for one class. -/
def isPending (selector : FairSelector) (priorityClass : WorkQueuePriorityClass)
    (row : WorkItemRow) : Bool :=
  isWaiting selector.queueDefinitionId selector.selectorScopeKey selector.nowMs row &&
    row.priorityClass = priorityClass && store.concurrencyFree row

def allPartitions (selector : FairSelector) (priorityClass : WorkQueuePriorityClass)
    (rejected : List String) : List VirtualFinishRow :=
  store.virtualFinish.rows.filter fun row =>
    row.queueDefinitionId = selector.queueDefinitionId &&
      row.selectorScopeKey = selector.selectorScopeKey &&
      selector.matchesVersion row.queueDefinitionVersion &&
      row.priorityClass = priorityClass && selector.fixed.admits row.toHierarchy &&
      rejected.all fun text => text ≠ row.toHierarchy.partitionText

def eligiblePartitions (selector : FairSelector) (priorityClass : WorkQueuePriorityClass)
    (partitions : List VirtualFinishRow) : List VirtualFinishRow :=
  partitions.filter fun partition => store.workItems.rows.any fun row =>
    store.isPending selector priorityClass row && row.toHierarchy = partition.toHierarchy

end Store

/-- `DENSE_RANK() OVER (ORDER BY key) - 1`. -/
def denseRank (keys : List String) (key : String) : Nat :=
  (keys.dedup.filter fun other => decide (other < key)).length

def claimsOf (partitions : List VirtualFinishRow) (selects : Hierarchy → Bool) : Nat :=
  ((partitions.filter fun row => selects row.toHierarchy).map fun row =>
    row.virtualFinish).sum

def countDistinct (keys : List String) : Nat := keys.dedup.length

def tenantRankKey (partitions eligible : List VirtualFinishRow) (tenantId : String) : Nat :=
  claimsOf partitions (fun other => other.tenantId = tenantId) *
      countDistinct (partitions.map fun row => row.tenantId) +
    denseRank (eligible.map fun row => row.tenantId) tenantId

def workspaceRankKey (partitions eligible : List VirtualFinishRow)
    (tenantId workspaceId : String) : Nat :=
  let inTenant := fun (rows : List VirtualFinishRow) =>
    (rows.filter fun row => row.tenantId = tenantId).map fun row => row.workspaceId
  claimsOf partitions
      (fun other => other.tenantId = tenantId && other.workspaceId = workspaceId) *
      countDistinct (inTenant partitions) + denseRank (inTenant eligible) workspaceId

def projectRankKey (partitions eligible : List VirtualFinishRow)
    (partition : VirtualFinishRow) : Nat :=
  let inWorkspace := fun (rows : List VirtualFinishRow) =>
    (rows.filter fun row => row.tenantId = partition.tenantId &&
      row.workspaceId = partition.workspaceId).map fun row => row.projectId
  partition.virtualFinish * countDistinct (inWorkspace partitions) +
    denseRank (inWorkspace eligible) partition.projectId

/-- The `ORDER BY` of `fairRankedCandidate`. -/
def candidateRank (partitions eligible : List VirtualFinishRow)
    (candidate : VirtualFinishRow × WorkItemRow) : Nat ×ₗ Nat ×ₗ Nat ×ₗ Int ×ₗ Int ×ₗ String :=
  let partition := candidate.1
  let row := candidate.2
  toLex (tenantRankKey partitions eligible partition.tenantId,
    toLex (workspaceRankKey partitions eligible partition.tenantId partition.workspaceId,
      toLex (projectRankKey partitions eligible partition,
        toLex (row.availableAtMs, toLex (row.createdAtMs, row.workItemId)))))

namespace Store

variable (store : Store)

def rankedCandidates (selector : FairSelector) (priorityClass : WorkQueuePriorityClass)
    (eligible : List VirtualFinishRow) : List (VirtualFinishRow × WorkItemRow) :=
  eligible.flatMap fun partition =>
    (store.workItems.rows.filter fun row =>
      store.isPending selector priorityClass row &&
        selector.matchesVersion row.queueDefinitionVersion &&
        row.queueDefinitionVersion = partition.queueDefinitionVersion &&
        row.toHierarchy = partition.toHierarchy).map fun row => (partition, row)

def fairRankedCandidate (selector : FairSelector) (priorityClass : WorkQueuePriorityClass)
    (rejected : List String) : Option WorkItemRow :=
  let partitions := store.allPartitions selector priorityClass rejected
  let eligible := store.eligiblePartitions selector priorityClass partitions
  letI : Preorder Int := Int.instLinearOrder.toPreorder
  ((store.rankedCandidates selector priorityClass eligible).argmin
    (candidateRank partitions eligible)).map Prod.snd

def modifyWorkItem (workItemId : String) (update : WorkItemRow → WorkItemRow)
    (keeps : ∀ row, (update row).workItemId = row.workItemId) : Store :=
  { store with workItems := store.workItems.modify workItemId update keeps }

/-- Fails on a used id and on the unique `(queue, scope, dedupe key)` index. -/
def insertWorkItem (row : WorkItemRow) : Option Store :=
  if row.dedupeKey ≠ "" && store.workItems.rows.any (fun other =>
      other.queueDefinitionId = row.queueDefinitionId && other.scopeKey = row.scopeKey &&
        other.dedupeKey = row.dedupeKey) then none
  else (store.workItems.insert? row).map fun workItems => { store with workItems }

def updateStateProjection (workItemId : String) (projection : WorkItemProjection)
    (updatedAtMs : Int) : Store :=
  store.modifyWorkItem workItemId
    (fun row => { row with toWorkItemProjection := projection, updatedAtMs })
    fun _ => rfl

def updateLastTransitionSeq (workItemId : String) (seq : Nat) (updatedAtMs : Int) : Store :=
  store.modifyWorkItem workItemId
    (fun row => { row with lastTransitionSeq := seq, updatedAtMs }) fun _ => rfl

def updateCheckpoint (workItemId : String) (checkpoint : WorkItemCheckpoint)
    (updatedAtMs : Int) : Store :=
  store.modifyWorkItem workItemId
    (fun row => { row with checkpoint, updatedAtMs }) fun _ => rfl

def updatePriorityClass (workItemId : String) (priorityClass : WorkQueuePriorityClass)
    (updatedAtMs : Int) : Store :=
  store.modifyWorkItem workItemId
    (fun row => { row with priorityClass, updatedAtMs }) fun _ => rfl

def insertJournal (draft : JournalDraft) : Store :=
  { store with journal := store.journal.insert draft }

/-- A journal entry and the `last_transition_seq` of its item. -/
def appendJournal (draft : JournalDraft) (nowMs : Int) : Store :=
  (store.insertJournal draft).updateLastTransitionSeq draft.workItemId
    (store.journal.lastSeq + 1) nowMs

def deleteJournalByWorkItem (workItemId : String) : Store :=
  { store with journal := store.journal.deleteByWorkItem workItemId }

def deleteWorkItem (workItemId : String) : Store :=
  { store with workItems := store.workItems.deleteWhere fun row => row.workItemId = workItemId }

def removeItem (workItemId : String) : Store :=
  (store.deleteJournalByWorkItem workItemId).deleteWorkItem workItemId

def insertSinkFence (fence : SinkFence) : Store :=
  { store with sinkFences := store.sinkFences.insertOrIgnore fence }

def pendingTransitions (queueDefinitionId : String) : Nat :=
  (store.retentionState.find? queueDefinitionId).elim 0 fun row => row.pendingTransitions

def incrementRetentionState (queueDefinitionId : String) : Store :=
  { store with
    retentionState := store.retentionState.upsert ⟨queueDefinitionId, 1⟩
      (fun row => { row with pendingTransitions := row.pendingTransitions + 1 }) fun _ => rfl }

def resetRetentionState (queueDefinitionId : String) (threshold : Nat) : Store :=
  { store with
    retentionState := store.retentionState.modify queueDefinitionId
      (fun row =>
        { row with
          pendingTransitions :=
            if threshold ≤ row.pendingTransitions then 0 else row.pendingTransitions })
      fun _ => rfl }

def upsertVirtualFinish (key : PartitionKey) : Store :=
  { store with
    virtualFinish := store.virtualFinish.insertOrIgnore { key with virtualFinish := 0 } }

def advanceVirtualFinish (key : PartitionKey) : Store :=
  { store with
    virtualFinish := store.virtualFinish.modify key
      (fun row => { row with virtualFinish := row.virtualFinish + 1 }) fun _ => rfl }

def deleteVirtualFinishByBoundary (queueDefinitionId scopeKey : String) : Store :=
  { store with
    virtualFinish := store.virtualFinish.deleteWhere fun row =>
      row.queueDefinitionId = queueDefinitionId && row.selectorScopeKey = scopeKey }

def upsertQueueControl (control : QueueControl) : Store :=
  { store with
    controls := store.controls.upsert control
      (fun row =>
        { row with mode := control.mode, reason := control.reason,
                   updatedAtMs := control.updatedAtMs }) fun _ => rfl }

section Writes

variable {store} (found : store.getWorkItem workItemId = some row)
include found

theorem mem_of_getWorkItem : row ∈ store.workItems.rows := store.workItems.mem_of_find? found

theorem id_of_getWorkItem : row.workItemId = workItemId := store.workItems.key_of_find? found

omit found

theorem getWorkItem_of_mem (member : row ∈ store.workItems.rows) :
    store.getWorkItem row.workItemId = some row :=
  store.workItems.find?_of_mem member

theorem getWorkItem_modifyWorkItem (workItemId : String) (update : WorkItemRow → WorkItemRow)
    (keeps : ∀ row, (update row).workItemId = row.workItemId) (other : String) :
    (store.modifyWorkItem workItemId update keeps).getWorkItem other =
      if other = workItemId then (store.getWorkItem workItemId).map update
      else store.getWorkItem other :=
  store.workItems.find?_modify workItemId update keeps other

theorem getWorkItem_appendJournal (draft : JournalDraft) (nowMs : Int) (other : String) :
    (store.appendJournal draft nowMs).getWorkItem other =
      if other = draft.workItemId then
        (store.getWorkItem other).map fun row =>
          { row with lastTransitionSeq := store.journal.lastSeq + 1, updatedAtMs := nowMs }
      else store.getWorkItem other := by
  have updated := @getWorkItem_modifyWorkItem (store.insertJournal draft)
    draft.workItemId
    (fun row => { row with lastTransitionSeq := store.journal.lastSeq + 1, updatedAtMs := nowMs })
    (fun _ => rfl) other
  by_cases same : other = draft.workItemId
  · rw [if_pos same] at updated ⊢
    rw [same] at updated ⊢
    exact updated
  · rw [if_neg same] at updated ⊢
    exact updated

theorem getWorkItem_removeItem (workItemId other : String) :
    (store.removeItem workItemId).getWorkItem other =
      if other = workItemId then none else store.getWorkItem other := by
  have kept : ∀ row, (store.removeItem workItemId).getWorkItem other = some row ↔
      store.getWorkItem other = some row ∧ ¬ row.workItemId = workItemId := by
    intro row
    simp only [removeItem, deleteWorkItem, getWorkItem, Table.find?_deleteWhere,
      decide_eq_false_iff_not]
    rfl
  by_cases same : other = workItemId
  · rw [if_pos same]
    cases found : (store.removeItem workItemId).getWorkItem other with
    | none => rfl
    | some row =>
      obtain ⟨present, different⟩ := (kept row).mp found
      exact absurd ((id_of_getWorkItem present).trans same) different
  · rw [if_neg same]
    cases found : store.getWorkItem other with
    | none =>
      cases removed : (store.removeItem workItemId).getWorkItem other with
      | none => rfl
      | some row => exact absurd ((kept row).mp removed).1 (by simp [found])
    | some row =>
      refine (kept row).mpr ⟨found, ?_⟩
      rw [id_of_getWorkItem found]
      exact same

@[simp] theorem journal_appendJournal (draft : JournalDraft) (nowMs : Int) :
    (store.appendJournal draft nowMs).journal = store.journal.insert draft := rfl

@[simp] theorem journal_removeItem (workItemId : String) :
    (store.removeItem workItemId).journal = store.journal.deleteByWorkItem workItemId := rfl

@[simp] theorem sinkFences_appendJournal (draft : JournalDraft) (nowMs : Int) :
    (store.appendJournal draft nowMs).sinkFences = store.sinkFences := rfl

@[simp] theorem definitions_appendJournal (draft : JournalDraft) (nowMs : Int) :
    (store.appendJournal draft nowMs).definitions = store.definitions := rfl

variable (h : store.insertWorkItem row = some inserted)
include h

theorem getWorkItem_of_insertWorkItem (other : String) : inserted.getWorkItem other =
      if other = row.workItemId then some row else store.getWorkItem other := by
  unfold insertWorkItem at h
  split at h
  · cases h
  · obtain ⟨workItems, hinsert, rfl⟩ := Option.map_eq_some_iff.mp h
    exact Table.find?_insert? hinsert other

theorem insertWorkItem_fresh : store.getWorkItem row.workItemId = none ∧
      inserted = { store with workItems := inserted.workItems } ∧
      inserted.workItems.rows = store.workItems.rows ++ [row] := by
  unfold insertWorkItem at h
  split at h
  · cases h
  · obtain ⟨workItems, hinsert, rfl⟩ := Option.map_eq_some_iff.mp h
    exact ⟨Table.fresh_of_insert? hinsert, rfl, Table.rows_insert? hinsert⟩

end Writes

end Store

end LicoMesh.WorkQueue

import LicoMesh.WorkQueue.StoreRuntime

namespace LicoMesh.WorkQueue

open Library Transaction

variable (env : QueueEnv)

def transitionProjection (row : WorkItemRow) (transition : WorkQueueTransition)
    (toState : WorkQueueState) (patch : ProjectionPatch) (nowMs : Int) :
    StoreTransaction WorkItemRow := do
  let updated ← transitionProjectionInternal env row transition toState patch nowMs
  let store ← get
  if updated.state.isTerminal ∧
      store.hasNonterminalInBoundary updated.queueDefinitionId updated.scopeKey = false then
    set (store.deleteVirtualFinishByBoundary updated.queueDefinitionId updated.scopeKey)
    return updated
  else return updated

def assertAdmissionCapacity (store : Store) (queueDefinitionId : String)
    (hierarchy : Hierarchy) (state : WorkQueueState) (policy : QueuePolicy) :
    Except QueueError Unit := do
  let capacity := policy.capacity
  let below := fun (reason : String) (limit : PolicyLimit) (filter : Hierarchy) =>
    assertCapacityBelow (store.countOutstanding queueDefinitionId filter limit.val) limit.val
      reason
  below "queue_outstanding" capacity.maxOutstanding hierarchy.queueLevel
  below "tenant_outstanding" capacity.maxOutstandingPerTenant hierarchy.tenantLevel
  below "workspace_outstanding" capacity.maxOutstandingPerWorkspace hierarchy.workspaceLevel
  below "project_outstanding" capacity.maxOutstandingPerProject hierarchy
  if state = .retryWait then
    assertCapacityBelow
      (store.countStateByHierarchy queueDefinitionId .retryWait {} capacity.maxDelayed.val)
      capacity.maxDelayed.val "queue_delayed"
  else .ok ()

def countLeased (store : Store) (queueDefinitionId : String) (filter : Hierarchy)
    (limit : Nat) : Nat :=
  store.countStateByHierarchy queueDefinitionId .running filter limit

def withinLeaseLimits (store : Store) (queueDefinitionId : String) (hierarchy : Hierarchy)
    (capacity : CapacityPolicy PolicyLimit) : Bool :=
  let below := fun (limit : PolicyLimit) (filter : Hierarchy) =>
    decide (countLeased store queueDefinitionId filter limit.val < limit.val)
  below capacity.maxLeased hierarchy.queueLevel &&
    below capacity.maxLeasedPerTenant hierarchy.tenantLevel &&
    below capacity.maxLeasedPerWorkspace hierarchy.workspaceLevel &&
    below capacity.maxLeasedPerProject hierarchy

/-- A level that already has its reserved leases leaves room for waiting siblings. -/
def withinReservations (store : Store) (queueDefinitionId : String) (hierarchy : Hierarchy)
    (policy : QueuePolicy) (scopeKey : String) (nowMs : Int) : Bool :=
  let capacity := policy.capacity
  let reservation := policy.fairness.minReservedLeasesPerPartition.val
  let limit := policy.fairness.reservationScanLimit.val
  let queueLeased := countLeased store queueDefinitionId hierarchy.queueLevel capacity.maxLeased.val
  let tenantLeased :=
    countLeased store queueDefinitionId hierarchy.tenantLevel capacity.maxLeasedPerTenant.val
  let workspaceLeased := countLeased store queueDefinitionId hierarchy.workspaceLevel
    capacity.maxLeasedPerWorkspace.val
  let projectLeased :=
    countLeased store queueDefinitionId hierarchy capacity.maxLeasedPerProject.val
  !(decide (reservation ≤ tenantLeased) && decide (capacity.maxLeased.val ≤ queueLeased +
      store.countUnderReservedTenants queueDefinitionId scopeKey nowMs hierarchy reservation
        limit)) && !(decide (reservation ≤ workspaceLeased) &&
      decide (capacity.maxLeasedPerTenant.val ≤ tenantLeased +
        store.countUnderReservedWorkspaces queueDefinitionId scopeKey nowMs hierarchy
          reservation limit)) && !(decide (reservation ≤ projectLeased) &&
      decide (capacity.maxLeasedPerWorkspace.val ≤ workspaceLeased +
        store.countUnderReservedProjects queueDefinitionId scopeKey nowMs hierarchy
          reservation limit))

def hasLeaseCapacity (store : Store) (queueDefinitionId : String) (hierarchy : Hierarchy)
    (policy : QueuePolicy) (scopeKey : String) (nowMs : Int) : Bool :=
  withinLeaseLimits store queueDefinitionId hierarchy policy.capacity &&
    withinReservations store queueDefinitionId hierarchy policy scopeKey nowMs

def promoteRow (nowMs : Int) (agingIntervalMs : Nat) (store : Store) (row : WorkItemRow) : Store :=
  let priorityClass :=
    agedWorkQueuePriorityClass row.priority row.availableAtMs nowMs agingIntervalMs
  if priorityClass ≠ row.priorityClass then
    store.updatePriorityClass row.workItemId priorityClass nowMs
  else store

def promoteAgedCandidates (queueDefinitionId : String) (version : Nat) (scopeKey : String)
    (nowMs : Int) : StoreTransaction Nat := do
  let store ← get
  let policy ← check (getPolicy (overridePolicy env.resolvedPolicy
    (store.getLatestDefinitionPolicy queueDefinitionId version)))
  let agingIntervalMs := policy.fairness.agingIntervalMs.val
  let rows := store.agedCandidates queueDefinitionId version scopeKey
    (nowMs - agingIntervalMs) policy.fairness.agingBatchSize.val
  set (rows.foldl (promoteRow nowMs agingIntervalMs) store)
  return rows.length

/-- The candidates of one class in rank order until one has lease capacity; the
partition of every other one is rejected. Each rejection removes a partition, so
more fuel than partitions never runs out. -/
def firstWithinCapacity (store : Store) (selector : FairSelector)
    (priorityClass : WorkQueuePriorityClass) :
    Nat → List String → Except QueueError (Option WorkItemRow)
  | 0, _ => .ok none
  | fuel + 1, rejected =>
    match store.fairRankedCandidate selector priorityClass rejected with
    | none => .ok none
    | some candidate =>
      match policyForRow env store candidate with
      | .error error => .error error
      | .ok policy =>
        if hasLeaseCapacity store selector.queueDefinitionId candidate.toHierarchy
            policy selector.selectorScopeKey selector.nowMs then
          .ok (some candidate)
        else
          firstWithinCapacity store selector priorityClass fuel
            (rejected ++ [candidate.toHierarchy.partitionText])

def selectFairCandidate (store : Store) (selector : FairSelector) :
    Nat → Nat → Except QueueError (Option (WorkItemRow × Nat))
  | 0, _ => .ok none
  | slots + 1, cursor =>
    match firstWithinCapacity env store selector (priorityClassAtCursor cursor)
        (store.virtualFinish.rows.length + 1) [] with
    | .error error => .error error
    | .ok (some row) => .ok (some (row, nextPriorityCursor cursor))
    | .ok none => selectFairCandidate store selector slots (nextPriorityCursor cursor)

def virtualFinishCursor (store : Store) (selector : FairSelector) : Nat :=
  store.virtualFinishTotal selector.queueDefinitionId selector.queueDefinitionVersion
    selector.selectorScopeKey % workQueuePriorityCycle.length

structure ClaimInput where
  nowMs : Int
  queue : QueueReference
  scope : QueueScope := {}
  schedulingScope : Option QueueScope := none
  scopeKey : Option String := none
  workerId : Option String := none
  consumerId : Option String := none
  batchSize : Option Int := none
  batch : Option Int := none
  maxMessages : Option Int := none
  leaseTimeoutMs : Option Int := none
  generatedWorkerId : Identifier
  /-- The lease id generated at a visit of the claim loop. -/
  leaseIds : Nat → Identifier

namespace ClaimInput

def resolvedScopeKey (input : ClaimInput) : String :=
  resolveScopeKey input.scopeKey input.scope.normalize

def resolvedBatchSize (input : ClaimInput) : Nat :=
  (max 1 (min ((input.batchSize <|> input.batch <|> input.maxMessages).getD 1) 500)).toNat

def recoveryScopeKey (input : ClaimInput) : String :=
  let scope := input.scope.normalize
  if scope.tenantId ≠ "" ∧ scope.workspaceId ≠ "" ∧ scope.projectId ≠ "" then
    input.resolvedScopeKey
  else ""

def sweepLimit (input : ClaimInput) : Nat := max 100 (input.resolvedBatchSize * 8)

def resolvedWorkerId (input : ClaimInput) : String :=
  toText (firstText [input.workerId, input.consumerId, some input.generatedWorkerId.val])

def selector (input : ClaimInput) (definition : ResolvedQueueDefinition) : FairSelector where
  queueDefinitionId := definition.queueDefinitionId
  queueDefinitionVersion := definition.queueDefinitionVersion
  selectorScopeKey := input.resolvedScopeKey
  nowMs := input.nowMs
  fixed := hierarchicalScopeParts ((input.schedulingScope.getD input.scope.normalize).normalize)

end ClaimInput

structure WorkItemLease where
  leaseId : String
  leaseSeq : Nat
  workerId : String
  expiresAtMs : Int

inductive ClaimVisit
  | leased (selected : WorkItemRow) (workItem : WorkItem) (lease : WorkItemLease)
  | exhausted (selected : WorkItemRow) (workItem : WorkItem)

namespace ClaimVisit

def selected : ClaimVisit → WorkItemRow
  | .leased row _ _ => row
  | .exhausted row _ => row

def claimed? : ClaimVisit → Option (WorkItem × WorkItemLease)
  | .leased _ workItem lease => some (workItem, lease)
  | .exhausted _ _ => none

end ClaimVisit

structure ClaimSweeps where
  expired : List WorkItem
  recovered : List WorkItem
  reconciled : List WorkItem

inductive ClaimResult
  | held (workerId : String) (sweeps : ClaimSweeps) (control : QueueControl)
  | served (workerId : String) (sweeps : ClaimSweeps) (matured : List WorkItem) (aged : Nat)
      (visits : List ClaimVisit)

namespace ClaimResult

def isServed : ClaimResult → Bool
  | .held _ _ _ => false
  | .served _ _ _ _ _ => true

def visits : ClaimResult → List ClaimVisit
  | .held _ _ _ => []
  | .served _ _ _ _ visits => visits

def claimed (result : ClaimResult) : List (WorkItem × WorkItemLease) :=
  result.visits.filterMap ClaimVisit.claimed?

theorem visits_of_held {result : ClaimResult} (held : result.isServed = false) :
    result.visits = [] := by
  cases result with
  | held => rfl
  | served => cases held

end ClaimResult

def maxAttemptsExhausted (row : WorkItemRow) : Json :=
  .obj [("type", .str "max_attempts_exhausted_before_claim"),
    ("attempt", .num (toString row.attempt)), ("maxAttempts", .num (toString row.maxAttempts))]

/-- `expires_at_ms > 0 ? Math.min(nowMs + duration, expires_at_ms) : nowMs + duration`. -/
def boundedLeaseExpiry (row : WorkItemRow) (nowMs duration : Int) : Int :=
  if 0 < row.expiresAtMs then min (nowMs + duration) row.expiresAtMs else nowMs + duration

def claimPatch (row : WorkItemRow) (lease : WorkItemLease) : ProjectionPatch where
  attempt := some (row.attempt + 1)
  leaseId := some lease.leaseId
  leaseSeq := some lease.leaseSeq
  leasedByWorkerId := some lease.workerId
  leaseExpiresAtMs := some lease.expiresAtMs
  lastError := some .emptyObject

def ClaimInput.leaseFor (input : ClaimInput) (visit : Nat) (row : WorkItemRow) : WorkItemLease where
  leaseId := (input.leaseIds visit).val
  leaseSeq := row.leaseSeq + 1
  workerId := input.resolvedWorkerId
  expiresAtMs := boundedLeaseExpiry row input.nowMs
    (max 1 (input.leaseTimeoutMs.getD env.resolvedPolicy.leaseTimeoutMs))

def countLeaseService (partition : PartitionKey) : StoreTransaction PUnit :=
  match env.adapter with
  | .sqlite => modify fun store => store.advanceVirtualFinish partition
  | .postgres => pure ⟨⟩

/-- A selected item is failed when its attempts are used up, and leased otherwise. -/
def visitCandidate (input : ClaimInput) (selector : FairSelector) (visit : Nat)
    (row : WorkItemRow) : StoreTransaction ClaimVisit := do
  let partition : PartitionKey :=
    { toHierarchy := row.toHierarchy
      queueDefinitionId := selector.queueDefinitionId
      queueDefinitionVersion := row.queueDefinitionVersion
      selectorScopeKey := selector.selectorScopeKey
      priorityClass := row.priorityClass }
  if row.maxAttempts ≤ row.attempt then
    modify fun store => store.advanceVirtualFinish partition
    let failedRow ← transitionProjection env row .fail .failed
      { releasedAt input.nowMs with lastError := some (maxAttemptsExhausted row) } input.nowMs
    return .exhausted row (rowToWorkItem failedRow)
  else
    countLeaseService env partition
    let lease := input.leaseFor env visit row
    let updated ← transitionProjection env row .claim .running (claimPatch row lease) input.nowMs
    return .leased row (rowToWorkItem updated) lease

def claimLoop (input : ClaimInput) (selector : FairSelector) :
    Nat → Nat → Nat → StoreTransaction (List ClaimVisit)
  | 0, _, _ => return []
  | remaining + 1, visit, priorityCursor => do
      let store ← get
      let selected ← check (selectFairCandidate env store selector
        workQueuePriorityCycle.length priorityCursor)
      match selected with
      | none => return []
      | some (row, nextCursor) =>
        let current ← visitCandidate env input selector visit row
        let later ← claimLoop input selector remaining (visit + 1) nextCursor
        return current :: later

def sweepBeforeClaim (input : ClaimInput) (queueDefinitionId : String) :
    StoreTransaction ClaimSweeps := do
  let expired ← expireEligibleLocked env input.nowMs queueDefinitionId input.recoveryScopeKey
    input.sweepLimit
  let recovered ← recoverExpiredLeasesLocked env input.nowMs queueDefinitionId
    input.recoveryScopeKey input.sweepLimit
  let reconciled ← reconcileInDoubtLocked env input.nowMs queueDefinitionId
    input.recoveryScopeKey "" input.sweepLimit
  return { expired, recovered, reconciled }

def isHeld (control : Option QueueControl) : Option QueueControl :=
  control.filter fun row => row.mode = .paused || row.mode = .draining

def matureAndPromote (input : ClaimInput) (selector : FairSelector) :
    StoreTransaction (List WorkItem × Nat) := do
  let matured ← materializeDelayedLocked env input.nowMs selector.queueDefinitionId
    input.recoveryScopeKey input.sweepLimit
  let aged ← promoteAgedCandidates env selector.queueDefinitionId
    selector.queueDefinitionVersion selector.selectorScopeKey input.nowMs
  return (matured, aged)

def claim (input : ClaimInput) : StoreTransaction ClaimResult := do
  let definition ← check (resolveQueueDefinition input.queue false true)
  let selector := input.selector definition
  let sweeps ← sweepBeforeClaim env input definition.queueDefinitionId
  let store ← get
  match isHeld (store.getQueueControl definition.queueDefinitionId input.resolvedScopeKey) with
  | some control => return .held input.resolvedWorkerId sweeps control
  | none =>
    let (matured, aged) ← matureAndPromote env input selector
    let prepared ← get
    let visits ← claimLoop env input selector input.resolvedBatchSize 0
      (virtualFinishCursor prepared selector)
    return .served input.resolvedWorkerId sweeps matured aged visits

end LicoMesh.WorkQueue

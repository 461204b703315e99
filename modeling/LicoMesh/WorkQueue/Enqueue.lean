import LicoMesh.WorkQueue.Claim

namespace LicoMesh.WorkQueue

open Library Transaction

variable (env : QueueEnv)

structure EnqueueInput where
  nowMs : Int
  queue : QueueReference
  scope : QueueScope := {}
  schedulingScope : Option QueueScope := none
  scopeKey : Option String := none
  dedupeKey : String := ""
  delayMs : Option Int := none
  availableAtMs : Option Int := none
  expiresAtMs : Option Int := none
  payloadRef : Json
  payloadKind : Option String := none
  ownerRef : Json := .emptyObject
  priority : Int := 0
  maxAttempts : Option Int := none
  workItemId : Option String := none
  generatedWorkItemId : Identifier
  concurrencyKey : String := ""
  routeVersion : String := ""
  policyVersion : Option String := none
  payloadRefIsValue : payloadRef.isValue := by decide
  ownerRefIsValue : ownerRef.isValue := by decide

inductive EnqueueResult
  | accepted (transitionSeq : Nat) (workItem : Option WorkItem)
  | deduped (workItem : WorkItem)

structure DedupeFingerprint where
  queueDefinitionVersion : Nat
  payloadRef : Json
  ownerRef : Json
  schedulingScope : Hierarchy

def DedupeFingerprint.text (fingerprint : DedupeFingerprint) : List Char :=
  canonicalJson (.obj
    [("queueDefinitionVersion", .num (toString fingerprint.queueDefinitionVersion)),
      ("payloadRef", fingerprint.payloadRef), ("ownerRef", fingerprint.ownerRef),
      ("schedulingScope", .obj
        [("tenantId", .str fingerprint.schedulingScope.tenantId),
          ("workspaceId", .str fingerprint.schedulingScope.workspaceId),
          ("projectId", .str fingerprint.schedulingScope.projectId)])])

def assertDedupeFingerprint (existing : WorkItemRow) (requested : DedupeFingerprint) :
    Except QueueError Unit :=
  let bound : DedupeFingerprint :=
    { queueDefinitionVersion := existing.queueDefinitionVersion
      payloadRef := parseJson existing.payloadRefJson .emptyObject
      ownerRef := parseJson existing.ownerRefJson .emptyObject
      schedulingScope := existing.toHierarchy }
  if bound.text = requested.text then .ok ()
  else .error
    { message := "The dedupe key is already bound to a different immutable work request."
      code := some "work_queue_dedupe_conflict" }

structure Admission where
  definition : ResolvedQueueDefinition
  policy : QueuePolicy
  row : WorkItemRow

namespace EnqueueInput

def resolvedAvailableAtMs (input : EnqueueInput) : Int :=
  let delayMs := max 0 (input.delayMs.getD 0)
  input.availableAtMs.getD (if 0 < delayMs then input.nowMs + delayMs else input.nowMs)

def initialState (input : EnqueueInput) : WorkQueueState :=
  if input.nowMs < input.resolvedAvailableAtMs then .retryWait else .queued

def hierarchy (input : EnqueueInput) : Hierarchy :=
  hierarchicalScopeParts (input.schedulingScope.getD input.scope.normalize)

def resolvedWorkItemId (input : EnqueueInput) : String :=
  toText (firstText [input.workItemId, some input.generatedWorkItemId.val])

def resolvedPayloadKind (input : EnqueueInput) : String :=
  let given := input.payloadKind.getD ""
  if given ≠ "" then toText given
  else
    let kind := input.payloadRef.get "kind"
    let value := if kind.isTruthy then kind else input.payloadRef.get "type"
    String.ofList (trimChars value.text)

def request (input : EnqueueInput) (definition : ResolvedQueueDefinition)
    (policy : QueuePolicy) (expiresAtMs : Int) : WorkItemRequest where
  toHierarchy := input.hierarchy
  workItemId := input.resolvedWorkItemId
  queueDefinitionId := definition.queueDefinitionId
  queueDefinitionVersion := definition.queueDefinitionVersion
  scopeKey := resolveScopeKey input.scopeKey input.scope.normalize
  scope := input.scope.normalize
  dedupeKey := toText input.dedupeKey
  ownerRefJson := String.ofList (normalizeOwnerRef input.ownerRef).render
  payloadRefJson := String.ofList input.payloadRef.render
  payloadKind := input.resolvedPayloadKind
  priority := (normalizeWorkQueuePriority input.priority).1
  expiresAtMs := expiresAtMs
  concurrencyKey := toText input.concurrencyKey
  routeVersion := toText input.routeVersion
  policyVersion := toText (firstText [input.policyVersion, some policy.policyVersion,
    some env.resolvedPolicy.policyVersion])
  createdAtMs := input.nowMs

def projection (input : EnqueueInput) (policy : QueuePolicy) : WorkItemProjection where
  state := input.initialState
  availableAtMs := input.resolvedAvailableAtMs
  attempt := 0
  maxAttempts := max 1 (input.maxAttempts.getD policy.maxAttempts).toNat
  leaseId := ""
  leaseSeq := 0
  leasedByWorkerId := ""
  leaseExpiresAtMs := 0
  fallbackTaskId := ""
  lastError := .emptyObject

def row (input : EnqueueInput) (definition : ResolvedQueueDefinition) (policy : QueuePolicy)
    (expiresAtMs : Int) : WorkItemRow where
  toWorkItemRequest := input.request env definition policy expiresAtMs
  toWorkItemProjection := input.projection policy
  priorityClass := (normalizeWorkQueuePriority input.priority).2
  checkpoint := noCheckpoint
  lastTransitionSeq := 0
  updatedAtMs := input.nowMs

def fingerprint (input : EnqueueInput) (definition : ResolvedQueueDefinition) :
    DedupeFingerprint where
  queueDefinitionVersion := definition.queueDefinitionVersion
  payloadRef := input.payloadRef
  ownerRef := normalizeOwnerRef input.ownerRef
  schedulingScope :=
    hierarchicalScopeParts (input.schedulingScope.getD input.scope.normalize).normalize

def admission (input : EnqueueInput) : Except QueueError Admission := do
  let definition ← resolveQueueDefinition input.queue true false
  let _ ← normalizePayloadRef input.payloadRef
  let policy ← getPolicy (mergePolicy env.resolvedPolicy definition.queueDefinition.policy)
  let expiresAtMs ← resolveWorkExpiryAtMs input.nowMs input.resolvedAvailableAtMs
    input.expiresAtMs policy
  let payloadRefJson ← serializePayloadRef input.payloadRef
  assertCapacityAtMost (Json.byteLength payloadRefJson) policy.capacity.maxPayloadRefBytes.val
    "payload_ref_bytes"
  return { definition, policy, row := input.row env definition policy expiresAtMs }

end EnqueueInput

def enqueueDraft (row : WorkItemRow) : JournalDraft where
  workItemId := row.workItemId
  queueDefinitionId := row.queueDefinitionId
  queueDefinitionVersion := row.queueDefinitionVersion
  transition := .enqueue
  fromState := none
  toState := row.state
  leaseId := row.leaseId
  leaseSeq := row.leaseSeq
  decision := .projectionRow row

def uniqueConstraintFailed : QueueError where
  message := "UNIQUE constraint failed"

def dedupedItem (existing : WorkItemRow) (input : EnqueueInput)
    (definition : ResolvedQueueDefinition) : StoreTransaction EnqueueResult := do
  check (assertDedupeFingerprint existing (input.fingerprint definition))
  return .deduped (rowToWorkItem existing)

def insertAdmitted (admission : Admission) (input : EnqueueInput) :
    StoreTransaction EnqueueResult := do
  let store ← get
  let row := admission.row
  check (assertAdmissionCapacity store row.queueDefinitionId row.toHierarchy row.state
    admission.policy)
  match store.insertWorkItem row with
  | none =>
    match store.getDedupe row.queueDefinitionId row.scopeKey row.dedupeKey with
    | some existing => dedupedItem existing input admission.definition
    | none => throw uniqueConstraintFailed
  | some inserted =>
    set (inserted.upsertVirtualFinish row.partition)
    let seq ← appendTransitionInternal env row (enqueueDraft row) input.nowMs
    let next ← get
    return .accepted seq ((next.getWorkItem row.workItemId).map rowToWorkItem)

def enqueue (input : EnqueueInput) : StoreTransaction EnqueueResult := do
  let admission ← check (input.admission env)
  let store ← get
  let row := admission.row
  match store.getDedupe row.queueDefinitionId row.scopeKey row.dedupeKey with
  | some existing => dedupedItem existing input admission.definition
  | none => insertAdmitted env admission input

structure RegisterInput where
  queueDefinitionId : String
  queueDefinitionVersion : Option Int := none
  label : String
  lifecycleState : Option String := none
  ownerCapability : Option String := none
  allowDeprecatedEnqueue : Bool := false
  metadata : Json := .emptyObject
  policy : PolicyInput := {}
  routes : Json := .arr []
  labelHistory : Json := .arr []

def RegisterInput.snapshot (input : RegisterInput) : QueueDefinition where
  queueDefinitionId := toText input.queueDefinitionId
  queueDefinitionVersion := max 1 (input.queueDefinitionVersion.getD 1).toNat
  label := toText input.label
  lifecycleState := toText (input.lifecycleState.getD "active")
  ownerCapability := toText (input.ownerCapability.getD "system")
  allowDeprecatedEnqueue := input.allowDeprecatedEnqueue
  metadata := input.metadata
  policy := input.policy
  routes := input.routes
  labelHistory := input.labelHistory

def QueueDefinition.sameSnapshot (left right : QueueDefinition) : Bool :=
  left.label = right.label && left.lifecycleState = right.lifecycleState &&
    left.ownerCapability = right.ownerCapability &&
    left.allowDeprecatedEnqueue = right.allowDeprecatedEnqueue &&
    decide (left.policy = right.policy) &&
    canonicalJson left.metadata = canonicalJson right.metadata &&
    canonicalJson left.routes = canonicalJson right.routes &&
    canonicalJson left.labelHistory = canonicalJson right.labelHistory

def queueDefinitionConflict (message : String) : QueueError where
  message := message
  code := some "work_queue_definition_conflict"

/-- A registered `(id, version)` is immutable, and a label belongs to one queue. -/
def registerQueueDefinition (input : RegisterInput) : StoreTransaction Bool := do
  let store ← get
  let definition := input.snapshot
  if definition.queueDefinitionId = "" then
    throw { message := "queueDefinitionId is required." }
  else if definition.label = "" then
    throw { message := "Queue definition label is required." }
  else
    match store.definitions.find? definition.toQueueDefinitionKey with
    | some existing =>
      if existing.sameSnapshot definition then return false
      else throw (queueDefinitionConflict ("Queue definition " ++
        definition.queueDefinitionId ++ " version " ++
        toString definition.queueDefinitionVersion ++ " is immutable."))
    | none =>
      if store.definitions.rows.any (fun other => other.label = definition.label &&
          other.queueDefinitionId ≠ definition.queueDefinitionId) then
        throw (queueDefinitionConflict
          ("Queue definition label is already in use: " ++ definition.label))
      else
        set { store with definitions := store.definitions.insertOrIgnore definition }
        return true

structure QueueControlInput where
  nowMs : Int
  queue : QueueReference
  scope : Option QueueScope := none
  scopeKey : Option String := none
  mode : QueueControlMode := .active
  reason : String := ""

/-- `toText(input.scopeKey || (input.scope ? scopeKeyFromScope(input.scope) : ""))`. -/
def optionalScopeKey (scopeKey : Option String) (scope : Option QueueScope) : String :=
  toText (firstText [scopeKey, scope.map scopeKeyFromScope])

/-- `toText(input.queueDefinitionId || input.queueDefinition?.queueDefinitionId)`. -/
def QueueReference.optionalId (queue : QueueReference) : String :=
  toText (firstText [queue.queueDefinitionId,
    queue.queueDefinition.bind fun definition => definition.queueDefinitionId])

def setQueueControl (input : QueueControlInput) : StoreTransaction QueueControl := do
  let control : QueueControl :=
    { queueDefinitionId := input.queue.optionalId
      scopeKey := optionalScopeKey input.scopeKey input.scope
      mode := input.mode
      reason := toText input.reason
      updatedAtMs := input.nowMs }
  if control.queueDefinitionId = "" then throw { message := "queueDefinitionId is required." }
  else
    modify fun store => store.upsertQueueControl control
    return control

end LicoMesh.WorkQueue

import LicoMesh.PendingOperations.Approvals
import LicoMesh.Library.Path

namespace LicoMesh.PendingOperations

open Library

/-! The calls of `resumePendingOperation` on one pending operation. A call is suspended at every
store command, at every event it publishes, at the governance approval store and at `executeTool`. -/

inductive Status
  | pending
  | approved
  | rejected
  | cancelled
  | expired
  | completed
  | failed
  | payloadMismatch
  deriving DecidableEq

/-- The row of the operation; `approvalActorId` is the actor that an approval binds into it. -/
structure PendingOperation where
  status : Status := .pending
  expiresAt : Option Nat
  originalInput : String
  requiredApproval : RequiredApproval
  approvalLayers : List String
  agentId : String := ""
  scopedApiKey : Bool := false
  approvalActorId : Option String := none

def PendingOperation.isOver (row : PendingOperation) (now : Nat) : Bool :=
  match row.expiresAt with
  | none => false
  | some expiresAt => expiresAt ≤ now

def expirePendingOperations (row : PendingOperation) (now : Nat) : PendingOperation :=
  if row.status = .pending ∧ row.isOver now then { row with status := .expired } else row

def sourceStatuses : Status → List Status
  | .approved => [.pending]
  | _ => [.pending, .approved]

def resolvePendingOperation (row : PendingOperation) (now : Nat) (resolution : Status) :
    PendingOperation × Bool :=
  let row := expirePendingOperations row now
  if row.status ∈ sourceStatuses resolution then ({ row with status := resolution }, true)
  else (row, false)

structure GovernanceApproval where
  userId : String
  agentId : String
  resourceType : String
  resourceId : String
  actions : List String
  targetProviders : List String
  teamIds : List String
  departmentIds : List String
  approvalLayers : List String
  grantKind : String
  expiresAt : String

structure ApprovalFacts where
  requiredApproval : RequiredApproval
  approvalLayers : List String
  projectionMismatch : Bool

def approvalFactsFromPending (pending : PendingOperation) : ApprovalFacts :=
  let requiredApprovalLayers := uniqueStrings pending.requiredApproval.approvalLayers
  { requiredApproval := pending.requiredApproval
    approvalLayers := requiredApprovalLayers
    projectionMismatch := !sameStringSet requiredApprovalLayers pending.approvalLayers }

def approvalRecordFromPending (pending : PendingOperation) (facts : ApprovalFacts) :
    Option GovernanceApproval :=
  let required := facts.requiredApproval
  if facts.approvalLayers = [] then none
  else
    let grantKinds := uniqueStrings required.grantKinds
    some {
      userId := required.userId
      agentId := firstString [required.agentId, pending.agentId]
      resourceType := firstString [required.resourceType, "*"]
      resourceId := firstString [required.resourceId, "*"]
      actions := uniqueStrings required.actions
      targetProviders := uniqueStrings required.targetProviders
      teamIds := uniqueStrings required.teamIds
      departmentIds := uniqueStrings required.departmentIds
      approvalLayers := facts.approvalLayers
      grantKind := if "once" ∈ grantKinds then "once" else firstString (grantKinds ++ ["once"])
      expiresAt := required.expiresAt }

structure Request where
  resolution : String
  approver : Approver
  resolvedBy : String := ""
  resumeInput : Option String := none

/-- The three resolutions that refuse an operation. -/
inductive Decision
  | cancelled
  | rejected
  | payloadMismatch

def Decision.status : Decision → Status
  | .cancelled => .cancelled
  | .rejected => .rejected
  | .payloadMismatch => .payloadMismatch

inductive Answer
  | decided (decision : Decision)
  | replayed (priorStatus : Status)
  | refused (code : String)
  | failed (code : String)
  | executed (ok : Bool)
  | threw

def Answer.status : Answer → Option Status
  | .decided decision => some decision.status
  | .replayed priorStatus => some priorStatus
  | _ => none

/-- What an approving call carries: the row it read, the approval it will write and the agent
bindings its approver was checked against. -/
structure Approving where
  pending : PendingOperation
  record : Option GovernanceApproval
  bindings : String → Option AgentBinding

inductive Point
  | reading
  | resolving (decision : Decision)
  | measuring (decision : Decision)
  | publishing (decision : Decision)
  | failing (code : String)
  | authorizing (approving : Approving)
  | taking (approving : Approving)
  | rereading
  | recording (approving : Approving) (record : GovernanceApproval)
  | announcing (approving : Approving)
  | executing (approving : Approving)
  /-- The end of the `finally` block; nothing when `executeTool` has thrown. -/
  | revoking (ok : Option Bool)
  | completing (ok : Bool)
  | reporting (ok : Bool)
  | ended (answer : Answer)

structure Call where
  request : Request
  point : Point

/-- The taking of the operation by an approving call. -/
structure Taken where
  index : Nat
  found : PendingOperation
  timestamp : Nat

/-- A call of `executeTool` for the operation, with its result when it has returned one. -/
structure Execution where
  index : Nat
  request : Request
  bindings : String → Option AgentBinding
  result : Option Bool := none

structure WrittenApproval where
  record : GovernanceApproval
  writer : Nat
  revoked : Bool := false

structure Shared where
  row : PendingOperation
  clock : Nat := 0
  getAgentBinding : String → Option AgentBinding := fun _ => none
  approval : Option WrittenApproval := none
  taken : Option Taken := none
  executions : List Execution := []

/-- How an awaited command ends: it may throw, with or without its effect. -/
structure Reply where
  throws : Bool := false
  effect : Bool := false
  /-- The grant or the API key of the operation is still good. -/
  authorityOk : Bool := true
  /-- The result of `executeTool` is a success. -/
  ok : Bool := true

/-- The synchronous part of a call after it has read the row. -/
def decidePending (approvalStore : Bool) (request : Request) (pending : PendingOperation)
    (getAgentBinding : String → Option AgentBinding) : Point :=
  if pending.status ≠ .pending then .ended (.replayed pending.status)
  else if request.resolution = "cancelled" ∨ request.resolution = "canceled" then
    .resolving .cancelled
  else if request.resolution = "rejected" ∨ request.resolution = "denied" then
    .resolving .rejected
  else if request.resolution ≠ "approved" then
    .ended (.refused "invalid_pending_operation_resolution")
  else if (request.resumeInput.getD pending.originalInput) ≠ pending.originalInput then
    .resolving .payloadMismatch
  else
    let facts := approvalFactsFromPending pending
    if facts.projectionMismatch then .ended (.refused "pending_approval_fact_mismatch")
    else
      let approving := ⟨pending, approvalRecordFromPending pending facts, getAgentBinding⟩
      if approving.record.isSome ∧ approvalStore = false then
        .failing "governance_approval_store_unavailable"
      else match approverCanApprovePending facts.requiredApproval facts.approvalLayers
          request.approver getAgentBinding with
        | .error _ => .ended (.refused "pending_approval_approver_not_authorized")
        | .ok () => .authorizing approving

def written (reply : Reply) (before after : PendingOperation) : PendingOperation :=
  if reply.throws ∧ reply.effect = false then before else after

def advance (approvalStore : Bool) (s : Shared) (index : Nat) (call : Call) (reply : Reply) :
    Shared × Point :=
  match call.point with
  | .reading =>
    if reply.throws then (s, .ended .threw)
    else
      let row := expirePendingOperations s.row s.clock
      ({ s with row := row }, decidePending approvalStore call.request row s.getAgentBinding)
  | .resolving decision =>
    let resolved := resolvePendingOperation s.row s.clock decision.status
    ({ s with row := written reply s.row resolved.1 },
      if reply.throws then .ended .threw else .measuring decision)
  | .measuring decision => (s, if reply.throws then .ended .threw else .publishing decision)
  | .publishing decision => (s, .ended (.decided decision))
  | .failing code =>
    let resolved := resolvePendingOperation s.row s.clock .failed
    ({ s with row := written reply s.row resolved.1 },
      if reply.throws then .ended .threw else .ended (.failed code))
  | .authorizing approving =>
    if approving.pending.scopedApiKey then
      if reply.throws ∨ reply.authorityOk = false then (s, .failing "api_key_authority_unavailable")
      else (s, .taking approving)
    else if reply.throws then (s, .ended .threw)
    else if reply.authorityOk = false then (s, .failing "pending_operation_grant_unavailable")
    else (s, .taking approving)
  | .taking approving =>
    let found := expirePendingOperations s.row s.clock
    let resolved := resolvePendingOperation s.row s.clock .approved
    if resolved.2 = false then
      (if reply.throws then s else { s with row := resolved.1 },
        if reply.throws then .ended .threw else .rereading)
    else if reply.throws ∧ reply.effect = false then (s, .ended .threw)
    else
      ({ s with
          row := { resolved.1 with approvalActorId := some call.request.resolvedBy }
          taken := some ⟨index, found, s.clock⟩ },
        if reply.throws then .ended .threw
        else match approving.record with
          | some record => .recording approving record
          | none => .announcing approving)
  | .rereading =>
    if reply.throws then (s, .ended .threw)
    else
      let row := expirePendingOperations s.row s.clock
      ({ s with row := row }, .ended (.replayed row.status))
  | .recording approving record =>
    if reply.throws then
      (if reply.effect then { s with approval := some ⟨record, index, false⟩ } else s,
        .failing "governance_approval_store_failed")
    else ({ s with approval := some ⟨record, index, false⟩ }, .announcing approving)
  | .announcing approving =>
    -- `executeTool` is called as soon as the event is published
    ({ s with executions := s.executions ++ [⟨index, call.request, approving.bindings, none⟩] },
      .executing approving)
  | .executing approving =>
    let result := if reply.throws then none else some reply.ok
    ({ s with executions := s.executions.map fun execution =>
        if execution.index = index then { execution with result := result } else execution },
      if (approving.record.map (·.grantKind)) = some "once" then .revoking result
      else match result with
        | none => .ended .threw
        | some ok => .completing ok)
  | .revoking result =>
    (if reply.throws ∧ reply.effect = false then s
      else { s with approval := s.approval.map fun written => { written with revoked := true } },
      if reply.throws then .ended .threw
      else match result with
        | none => .ended .threw
        | some ok => .completing ok)
  | .completing ok =>
    let resolved := resolvePendingOperation s.row s.clock (if ok then .completed else .failed)
    ({ s with row := written reply s.row resolved.1 },
      if reply.throws then .ended .threw else .reporting ok)
  | .reporting ok => (s, .ended (.executed ok))
  | .ended answer => (s, .ended answer)

inductive Event
  | tick (elapsed : Nat)
  | bind (agentId : String) (binding : Option AgentBinding)
  | call (request : Request)
  | step (index : Nat) (reply : Reply)

abbrev Calls := World Shared Call

def Calls.apply (approvalStore : Bool) (w : Calls) : Event → Calls
  | .tick elapsed => ⟨{ w.shared with clock := w.shared.clock + elapsed }, w.agents⟩
  | .bind agentId binding =>
    ⟨{ w.shared with
        getAgentBinding := fun other =>
          if other = agentId then binding else w.shared.getAgentBinding other }, w.agents⟩
  | .call request => w.spawn ⟨request, .reading⟩
  | .step index reply =>
    match w.agents[index]? with
    | none => w
    | some call =>
      let next := advance approvalStore w.shared index call reply
      w.update index next.1 { call with point := next.2 }

def Calls.initial (row : PendingOperation) : Calls :=
  ⟨{ row := { row with status := .pending, approvalActorId := none } }, []⟩

end LicoMesh.PendingOperations

import LicoMesh.ConsoleAuth.Accounts
import Mathlib.Data.List.Dedup
import Mathlib.Data.List.Sort

namespace LicoMesh.ConsoleAuth

/-! The authority that a console session lends to a protected sink, and its deferred form, which
queued work presents later. A digest stands as the facts it is taken of; texts are trimmed. -/

structure Role where
  roleId : String
  scopes : List String := []
  enabled : Bool := true

structure Roles where
  named : String → Option Role
  viewer : Role

def resolveRole (roles : Roles) (roleId : String) : Role := (roles.named roleId).getD roles.viewer

structure PolicyRevision where
  protocolVersion : String := "v0.0.1:risk-control:governance-policy-revision-1"
  revision : Nat
  updatedAt : Nat
  deriving DecidableEq

structure SessionFacts where
  createdAt : Nat
  expiresAt : Nat
  sessionId : Nat
  tokenHash : Nat
  deriving DecidableEq

structure UserFacts where
  allowedDataClasses : List String
  allowedEgress : List String
  allowedWorkspaceIds : List String
  attributes : String
  createdAt : Nat
  departmentIds : List String
  enabled : Bool := true
  orgId : String
  roleId : String
  roleScopes : List String
  teamIds : List String
  tenantId : String
  updatedAt : Nat
  userId : String
  deriving DecidableEq

structure DurableAuthoritySource where
  session : SessionFacts
  user : UserFacts
  deriving DecidableEq

def stableStrings (values : List String) : List String :=
  (values.filter (· ≠ "")).dedup.insertionSort (· ≤ ·)

def sessionFacts (row : SessionRow) : SessionFacts where
  createdAt := row.createdAt
  expiresAt := row.expiresAt
  sessionId := row.sessionId
  tokenHash := row.tokenHash

def userFacts (user : UserRow) (role : Role) : UserFacts where
  allowedDataClasses := stableStrings user.profile.allowedDataClasses
  allowedEgress := stableStrings user.profile.allowedEgress
  allowedWorkspaceIds := stableStrings user.profile.allowedWorkspaceIds
  attributes := user.profile.attributes
  createdAt := user.createdAt
  departmentIds := stableStrings user.profile.departmentIds
  orgId := user.profile.orgId
  roleId := user.roleId
  roleScopes := stableStrings role.scopes
  teamIds := stableStrings user.profile.teamIds
  tenantId := user.profile.tenantId
  updatedAt := user.updatedAt
  userId := user.userId

def durableSessionAuthoritySource (row : SessionRow) (user : UserRow) (role : Role) :
    Option DurableAuthoritySource :=
  if user.userId = "" ∨ user.profile.tenantId = "" ∨ user.profile.orgId = "" ∨ user.roleId = "" ∨
      user.enabled = false ∨ role.roleId ≠ user.roleId ∨ role.enabled = false then none
  else some ⟨sessionFacts row, userFacts user role⟩

structure Operation where
  id : String
  /-- The `safety` record of the operation. -/
  risk : String
  approvalScope : String := ""
  requiresConfirmation : Bool := false
  requiresConfirmationExplicit : Bool := false
  safetyRequiresApproval : Bool := false
  safetyDestructive : Bool := false
  blocked : Bool := false
  requiresApproval : Bool := false
  destructive : Bool := false
  readOnly : Bool := false
  deriving DecidableEq

/-- An input as its canonical text, and its confirmation flags as `truthyApprovalFlag` reads
them. -/
structure ConsoleInput where
  canonical : String := ""
  confirm : Bool := false
  nestedSafetyConfirm : Bool := false
  safetyConfirm : Bool := false
  deriving DecidableEq

structure Headers where
  safetyHeader : Bool := false
  standardHeader : Bool := false
  deriving DecidableEq

structure ApprovalFacts where
  approvalScope : String
  confirmation : List Bool := []
  operationId : String
  requiresConfirmation : Bool
  risk : String
  state : String

def operationApprovalAuthorityFacts (operation : Operation) (input : ConsoleInput)
    (request : Option Headers) : Option ApprovalFacts :=
  if operation.id = "" ∨ operation.risk = "" then none
  else if operation.requiresApproval ∨ operation.safetyRequiresApproval ∨ operation.destructive ∨
      operation.safetyDestructive ∨ operation.blocked ∨ operation.risk = "destructive" then none
  else if operation.requiresConfirmation = false then
    some {
      approvalScope := operation.approvalScope
      operationId := operation.id
      requiresConfirmation := false
      risk := operation.risk
      state := "not-required" }
  else
    let confirmation := [input.confirm, input.nestedSafetyConfirm, input.safetyConfirm,
      (request.map (·.safetyHeader)).getD false, (request.map (·.standardHeader)).getD false]
    if confirmation.any id then
      some {
        approvalScope := operation.approvalScope
        confirmation := confirmation
        operationId := operation.id
        requiresConfirmation := true
        risk := operation.risk
        state := "confirmed" }
    else none

structure ApprovalIntent where
  approvalScope : String
  confirmed : Bool
  operationId : String
  requiresConfirmation : Bool
  risk : String
  state : String
  deriving DecidableEq

def durableApprovalIntentFacts (approval : ApprovalFacts) : ApprovalIntent where
  approvalScope := approval.approvalScope
  confirmed := approval.state = "not-required" || approval.confirmation.any id
  operationId := approval.operationId
  requiresConfirmation := approval.requiresConfirmation
  risk := approval.risk
  state := approval.state

structure Decision where
  allowed : Bool
  action : String
  effect : String
  reasonCode : String
  operationId : String
  risk : String
  deriving DecidableEq

structure RiskFacts where
  action : String
  approvalScope : String
  blocked : Bool
  decisionRisk : String
  destructive : Bool
  effect : String
  operationDestructive : Bool
  operationId : String
  readOnly : Bool
  reasonCode : String
  requiresApproval : Bool
  requiresConfirmation : Bool
  requiresConfirmationExplicit : Bool
  risk : String
  deriving DecidableEq

def operationRiskAuthorityFacts (operation : Operation) (decision : Decision) : Option RiskFacts :=
  if operation.id = "" ∨ operation.risk = "" ∨ decision.operationId ≠ operation.id ∨
      decision.risk ≠ operation.risk ∨ decision.effect = "" ∨ decision.reasonCode = "" ∨
      decision.action = "" ∨ decision.allowed = false then none
  else
    some {
      action := decision.action
      approvalScope := operation.approvalScope
      blocked := operation.blocked
      decisionRisk := decision.risk
      destructive := operation.safetyDestructive
      effect := decision.effect
      operationDestructive := operation.destructive
      operationId := operation.id
      readOnly := operation.readOnly
      reasonCode := decision.reasonCode
      requiresApproval := operation.requiresApproval || operation.safetyRequiresApproval
      requiresConfirmation := operation.requiresConfirmation
      requiresConfirmationExplicit := operation.requiresConfirmationExplicit
      risk := operation.risk }

structure Subject where
  generation : UserFacts
  subjectId : String
  tenantId : String
  deriving DecidableEq

structure AuthorityContext where
  approvalRevision : ApprovalIntent
  grantRevision : SessionFacts × UserFacts
  policyRevision : PolicyRevision
  riskRevision : RiskFacts
  workloadGeneration : Nat × Nat × Nat × UserFacts
  deriving DecidableEq

structure Authority where
  subject : Subject
  context : AuthorityContext
  deriving DecidableEq

def protectedSinkAuthorityFromSource (source : DurableAuthoritySource) (operation : Operation)
    (input : ConsoleInput) (request : Option Headers) (decision : Decision)
    (policy : PolicyRevision) : Option Authority :=
  match operationApprovalAuthorityFacts operation input request,
      operationRiskAuthorityFacts operation decision with
  | some approval, some risk =>
    some {
      subject := {
        generation := source.user
        subjectId := source.user.userId
        tenantId := source.user.tenantId }
      context := {
        approvalRevision := durableApprovalIntentFacts approval
        grantRevision := (source.session, source.user)
        policyRevision := policy
        riskRevision := risk
        workloadGeneration := (source.session.createdAt, source.session.sessionId,
          source.session.tokenHash, source.user) } }
  | _, _ => none

structure DeferredAuthorityRow where
  authorityRef : Nat
  sessionId : Nat
  operationId : String
  requestDigest : String × ConsoleInput
  approvalIntentDigest : ApprovalIntent
  issuedAt : Nat
  expiresAt : Nat
  revokedAt : Option Nat := none
  reasonCode : String := ""
  deriving DecidableEq

def deferredRequestDigest (operationId : String) (input : ConsoleInput) : String × ConsoleInput :=
  (operationId, input)

def currentDeferredSession (store : Store) (roles : Roles) (sessionId now : Nat) :
    Option DurableAuthoritySource :=
  match store.sessions.find? (·.sessionId = sessionId) with
  | none => none
  | some row =>
    match store.users row.userId with
    | none => none
    | some user =>
      if user.enabled = false ∨ row.expiresAt ≤ now then none
      else durableSessionAuthoritySource row user (resolveRole roles user.roleId)

structure CurrentAuthority where
  approvalIntentDigest : ApprovalIntent
  authority : Authority
  deriving DecidableEq

def evaluateDeferredCurrentAuthority (operation : Operation) (input : ConsoleInput)
    (source : DurableAuthoritySource) (policy : PolicyRevision) (decision : Decision) :
    Option CurrentAuthority :=
  if decision.allowed = false then none
  else
    match protectedSinkAuthorityFromSource source operation input none decision policy,
        operationApprovalAuthorityFacts operation input none with
    | some authority, some approval => some ⟨durableApprovalIntentFacts approval, authority⟩
    | _, _ => none

inductive Revalidation
  | unavailable (revoked : Bool)
  | changed
  | allowed (current : CurrentAuthority)
  deriving DecidableEq

/-- The decision is what the engine answers for the session without a request. -/
def revalidateDeferredProtectedSinkAuthority (store : Store) (roles : Roles)
    (policy : PolicyRevision) (authorities : List DeferredAuthorityRow) (now authorityRef : Nat)
    (operation : Operation) (input : ConsoleInput) (requestDigest : String × ConsoleInput)
    (authorityBindingDigest : Authority) (decision : Decision) : Revalidation :=
  match authorities.find? (·.authorityRef = authorityRef) with
  | none => .unavailable false
  | some row =>
    if row.operationId ≠ operation.id ∨ row.requestDigest ≠ requestDigest ∨
        row.requestDigest ≠ deferredRequestDigest operation.id input ∨ row.revokedAt.isSome ∨
        row.expiresAt ≤ now then
      .unavailable row.revokedAt.isSome
    else
      match (currentDeferredSession store roles row.sessionId now).bind
          fun source => evaluateDeferredCurrentAuthority operation input source policy decision with
      | none => .changed
      | some current =>
        if current.approvalIntentDigest ≠ row.approvalIntentDigest ∨
            current.authority ≠ authorityBindingDigest then .changed
        else .allowed current

def revokeDeferredProtectedSinkAuthority (authorities : List DeferredAuthorityRow)
    (authorityRef now : Nat) (reason : String) : List DeferredAuthorityRow :=
  authorities.map fun row =>
    if row.authorityRef = authorityRef ∧ row.revokedAt = none then
      { row with revokedAt := some now, reasonCode := reason }
    else row

end LicoMesh.ConsoleAuth

import LicoMesh.ApiKeys.Records
import LicoMesh.Library.Transaction

namespace LicoMesh.ApiKeys

/-! The commands of the API key worker. A command that fails leaves the store as it was, except
`authenticateRuntime`, which may write the status it has read from the time. -/

def require (condition : Prop) [Decidable condition] (failure : ApiKeyDistributionError) :
    Except ApiKeyDistributionError Unit :=
  if condition then .ok () else .error failure

@[simp] theorem require_eq_ok [Decidable condition] {failure : ApiKeyDistributionError} :
    require condition failure = .ok answer ↔ condition := by
  unfold require
  split_ifs with met <;> simp [met]

@[simp] theorem assertApiKeyIssuerTarget_eq_ok {nodeId : String} :
    assertApiKeyIssuerTarget scopes nodeId = .ok answer ↔ nodeId ∈ scopes.eligibleNodeIds :=
  require_eq_ok

def authorityStale : ApiKeyDistributionError :=
  ⟨"api_key_authority_stale", "API Key issuer authority changed.", 409⟩

def revisionStale (message : String) : ApiKeyDistributionError :=
  ⟨"api_key_revision_stale", message, 409⟩

def invalidKey : ApiKeyDistributionError := ⟨"api_key_invalid", "API Key is invalid.", 401⟩

def lineageChanged : ApiKeyDistributionError :=
  ⟨"api_key_inactive", "API Key organization lineage changed.", 410⟩

/-- What the worker is given: the verdict of `requireAllowedOperation` on a policy and an
operation, and the life of an effect lease. -/
structure WorkerEnv where
  requireAllowedOperation : Policy → String → Except ApiKeyDistributionError Unit
  effectLeaseTtlMs : Nat := 5 * 60 * 1000

def getVerifierKey (verifierKeys : String → Option String) (generation : String) :
    Except ApiKeyDistributionError String :=
  match verifierKeys generation with
  | some key =>
    if 32 ≤ key.length then .ok key
    else .error ⟨"api_key_authority_unavailable", "API Key verifier generation is unavailable.", 503⟩
  | none =>
    .error ⟨"api_key_authority_unavailable", "API Key verifier generation is unavailable.", 503⟩

structure CreateInput where
  organizationNodeId : String
  expiresAt : Option Nat
  policy : Except ApiKeyDistributionError Policy
  /-- The issuer's authority before and inside the transaction. -/
  scopes : Except ApiKeyDistributionError IssuerScopes
  currentScopes : Except ApiKeyDistributionError IssuerScopes
  snapshot : OrganizationSnapshot
  keyId : String
  secret : String
  currentGeneration : String
  verifierKeys : String → Option String

def create (input : CreateInput) (nowMs : Nat) (store : Store) :
    Except ApiKeyDistributionError Store := do
  let scopes ← input.scopes
  assertApiKeyIssuerTarget scopes input.organizationNodeId
  let expiresAt := input.expiresAt.getD 0
  require (input.expiresAt.isSome ∧ nowMs < expiresAt)
    ⟨"api_key_input_invalid", "expiresAt must be in the future.", 400⟩
  let policy ← input.policy
  let lineageDigest ← organizationLineageDigest input.organizationNodeId input.snapshot.nodesById
  require (input.snapshot.revision = scopes.revision.organizationRevision) authorityStale
  let key ← getVerifierKey input.verifierKeys input.currentGeneration
  let currentScopes ← input.currentScopes
  require (currentScopes.revision = scopes.revision) authorityStale
  assertApiKeyIssuerTarget currentScopes input.organizationNodeId
  -- the primary key of the table
  require ((store.records input.keyId).isNone)
    ⟨"SQLITE_CONSTRAINT_PRIMARYKEY", "UNIQUE constraint failed: api_key_records.key_id", 500⟩
  return { store.setRecord input.keyId {
      keyId := input.keyId
      verifierGeneration := input.currentGeneration
      verifierDigest := ⟨key, input.keyId, input.secret⟩
      workloadPrincipalId := store.drawn
      organizationNodeId := input.organizationNodeId
      organizationLineageDigest := lineageDigest
      organizationRevisionAtIssue := input.snapshot.revision
      policy := policy
      expiresAt := expiresAt } with drawn := store.drawn + 1 }

structure RotateInput where
  keyId : String
  expectedLifecycleRevision : Nat
  scopes : Except ApiKeyDistributionError IssuerScopes
  currentScopes : Except ApiKeyDistributionError IssuerScopes
  secret : String
  currentGeneration : String
  verifierKeys : String → Option String

def scopedRecord (store : Store) (keyId : String)
    (scopes : Except ApiKeyDistributionError IssuerScopes) :
    Except ApiKeyDistributionError (ApiKeyRecord × IssuerScopes) := do
  let scopes ← scopes
  match store.records keyId with
  | none => .error ⟨"api_key_record_not_found", "API Key record was not found.", 404⟩
  | some row =>
    require (row.organizationNodeId ∈ scopes.eligibleNodeIds)
      ⟨"api_key_record_not_found", "API Key record was not found.", 404⟩
    return (row, scopes)

/-- The check of the transactions of `rotate` and `revoke`: the issuer's authority is the one the
command began with. -/
def checkAuthority (currentScopes : Except ApiKeyDistributionError IssuerScopes)
    (scopes : IssuerScopes) (organizationNodeId : String) :
    Except ApiKeyDistributionError Unit := do
  let current ← currentScopes
  require (current.revision = scopes.revision) authorityStale
  assertApiKeyIssuerTarget current organizationNodeId

def rotate (input : RotateInput) (nowMs : Nat) (store : Store) :
    Except ApiKeyDistributionError Store := do
  let (row, scopes) ← scopedRecord store input.keyId input.scopes
  let projected := recordFromRow row nowMs
  require (projected.status = .active) (errorForInactive projected.status)
  let key ← getVerifierKey input.verifierKeys input.currentGeneration
  checkAuthority input.currentScopes scopes row.organizationNodeId
  require (row.status = .active ∧ row.lifecycleRevision = input.expectedLifecycleRevision)
    (revisionStale "API Key lifecycle revision changed.")
  return store.setRecord input.keyId { row with
    verifierGeneration := input.currentGeneration
    verifierDigest := ⟨key, row.keyId, input.secret⟩
    lifecycleRevision := row.lifecycleRevision + 1 }

structure RevokeInput where
  keyId : String
  expectedLifecycleRevision : Nat
  reasonCode : String
  scopes : Except ApiKeyDistributionError IssuerScopes
  currentScopes : Except ApiKeyDistributionError IssuerScopes

def reasonHead (c : Char) : Bool := c.isLower || c.isDigit

def reasonTail (c : Char) : Bool := reasonHead c || c == '.' || c == '_' || c == '-'

/-- `^[a-z0-9][a-z0-9._-]{0,63}$`. -/
def isReasonCode (reasonCode : String) : Bool :=
  match reasonCode.toList with
  | [] => false
  | head :: tail => reasonHead head && tail.all reasonTail && tail.length ≤ 63

def revoke (input : RevokeInput) (nowMs : Nat) (store : Store) :
    Except ApiKeyDistributionError Store := do
  let (row, scopes) ← scopedRecord store input.keyId input.scopes
  require (isReasonCode input.reasonCode)
    ⟨"api_key_input_invalid", "reasonCode is invalid.", 400⟩
  let projected := recordFromRow row nowMs
  require (projected.status = .active) (errorForInactive projected.status)
  checkAuthority input.currentScopes scopes row.organizationNodeId
  require (row.status = .active ∧ row.lifecycleRevision = input.expectedLifecycleRevision)
    (revisionStale "API Key lifecycle revision changed.")
  return { store.setRecord input.keyId { row with
      status := .revoked
      lifecycleRevision := row.lifecycleRevision + 1 } with
    effectLeases := store.effectLeases.filter (·.keyId ≠ input.keyId) }

structure AuthenticateInput where
  /-- The key id and the secret of a credential of the right form. -/
  credential : Option (String × String)
  serverAudience : String
  targetId : String
  connectorPackageId : String
  processIdentityEvidence : Option (Option String)
  verifierKeys : String → Option String
  snapshot : OrganizationSnapshot

structure Authorization where
  keyId : String
  workloadPrincipalId : Nat
  organizationNodeId : String
  lifecycleRevision : Nat
  policyFingerprint : Policy
  policy : Policy

def authorizationOf (record : ApiKeyRecord) : Authorization where
  keyId := record.keyId
  workloadPrincipalId := record.workloadPrincipalId
  organizationNodeId := record.organizationNodeId
  lifecycleRevision := record.lifecycleRevision
  policyFingerprint := record.policy
  policy := record.policy

def verifyProcessIdentity (policy : Policy) (evidence : Option (Option String)) :
    Except ApiKeyDistributionError Unit :=
  match evidence, policy.allowedPublicKeyFingerprints with
  | none, none => .ok ()
  | none, some _ =>
    .error ⟨"api_key_process_identity_required", "Signed process identity is required.", 403⟩
  | some none, _ =>
    .error ⟨"api_key_process_identity_required", "Signed process identity is invalid.", 403⟩
  | some (some _), none => .ok ()
  | some (some fingerprint), some allowed =>
    require (fingerprint ∈ allowed)
      ⟨"api_key_process_identity_required", "Signed process identity is not allowed.", 403⟩

def requireLineage (record : ApiKeyRecord) (snapshot : OrganizationSnapshot) :
    Except ApiKeyDistributionError Unit := do
  require ((snapshot.nodesById record.organizationNodeId).isSome) lineageChanged
  let lineage ← organizationLineageDigest record.organizationNodeId snapshot.nodesById
  require (lineage = record.organizationLineageDigest) lineageChanged

def verifyCredential (input : AuthenticateInput) (store : Store) :
    Except ApiKeyDistributionError ApiKeyRecord :=
  match input.credential with
  | none => .error invalidKey
  | some (keyId, secret) =>
    match store.records keyId with
    | none => .error invalidKey
    | some row => do
        let key ← getVerifierKey input.verifierKeys row.verifierGeneration
        require (.mk key keyId secret = row.verifierDigest) invalidKey
        return row

/-- What `authenticateRuntime` asks of an active record. -/
def admitRuntime (input : AuthenticateInput) (record : ApiKeyRecord) :
    Except ApiKeyDistributionError Authorization := do
  let policy := record.policy
  require (policy.serverAudience = input.serverAudience ∧
      (policy.targetIds = [] ∨ input.targetId ∈ policy.targetIds) ∧
      (policy.connectorPackageIds = [] ∨ input.connectorPackageId ∈ policy.connectorPackageIds))
    ⟨"api_key_policy_denied", "API Key audience is not allowed.", 403⟩
  requireLineage record input.snapshot
  verifyProcessIdentity policy input.processIdentityEvidence
  return authorizationOf record

def settleStatus (row : ApiKeyRecord) (status : Status) (store : Store) : Store :=
  if row.status = .active ∧ (status = .expired ∨ status = .exhausted) then
    store.setRecord row.keyId
      { row with status := status, lifecycleRevision := row.lifecycleRevision + 1 }
  else store

def authenticateRuntime (input : AuthenticateInput) (nowMs : Nat) (store : Store) :
    Except ApiKeyDistributionError Authorization × Store :=
  match verifyCredential input store with
  | .error failure => (.error failure, store)
  | .ok row =>
    let record := recordFromRow row nowMs
    if record.status = .active then (admitRuntime input record, store)
    else (.error (errorForInactive record.status), settleStatus row record.status store)

def assertAuthorizationCurrent (authorization : Authorization) (snapshot : OrganizationSnapshot)
    (nowMs : Nat) (store : Store) : Except ApiKeyDistributionError ApiKeyRecord :=
  match store.records authorization.keyId with
  | none => .error (errorForInactive .revoked)
  | some row => do
      let record := recordFromRow row nowMs
      require (record.status = .active) (errorForInactive record.status)
      require (record.lifecycleRevision = authorization.lifecycleRevision ∧
          record.policy = authorization.policyFingerprint ∧
          record.workloadPrincipalId = authorization.workloadPrincipalId ∧
          record.organizationNodeId = authorization.organizationNodeId)
        (revisionStale "API Key lifecycle changed.")
      requireLineage record snapshot
      return record

def authorizeOperation (env : WorkerEnv) (authorization : Authorization) (operation : String)
    (snapshot : OrganizationSnapshot) (nowMs : Nat) (store : Store) :
    Except ApiKeyDistributionError Authorization := do
  env.requireAllowedOperation authorization.policy operation
  let record ← assertAuthorizationCurrent authorization snapshot nowMs store
  return authorizationOf record

def cleanupExpiredEphemeralState (store : Store) (timestamp : Nat) : Store :=
  { store with
    usageWindows := deleteExpired UsageWindow.expiresAt store.usageWindows timestamp
    effectLeases := deleteExpired EffectLease.expiresAt store.effectLeases timestamp }

def cleanupKey (store : Store) (keyId : String) (timestamp : Nat) : Store :=
  { store with
    usageWindows := store.usageWindows.filter fun row =>
      ¬ (row.keyId = keyId ∧ row.expiresAt ≤ timestamp)
    effectLeases := store.effectLeases.filter fun row =>
      ¬ (row.keyId = keyId ∧ row.expiresAt ≤ timestamp) }

def countRequest (windows : List UsageWindow) (keyId : String) (windowStart windowMs : Nat) :
    List UsageWindow :=
  if windows.any fun row => row.keyId = keyId ∧ row.windowStart = windowStart then
    windows.map fun row =>
      if row.keyId = keyId ∧ row.windowStart = windowStart then
        { row with requestCount := row.requestCount + 1 }
      else row
  else windows ++ [⟨keyId, windowStart, 1, windowStart + windowMs * 2⟩]

def requestCount (windows : List UsageWindow) (keyId : String) (windowStart : Nat) : Nat :=
  ((windows.find? fun row => row.keyId = keyId ∧ row.windowStart = windowStart).map
    (·.requestCount)).getD 0

/-- `timestamp` is the command's first clock reading and `nowMs` the one inside its
transaction. -/
def reserveEffect (env : WorkerEnv) (authorization : Authorization) (operation : String)
    (snapshot : OrganizationSnapshot) (timestamp nowMs : Nat) (store : Store) :
    Except ApiKeyDistributionError (EffectLease × Store) := do
  env.requireAllowedOperation authorization.policy operation
  let record ← assertAuthorizationCurrent authorization snapshot nowMs store
  let cleaned := cleanupKey (cleanupExpiredEphemeralState store timestamp) record.keyId timestamp
  let limits := record.policy.limits
  let windowStart := timestamp / limits.windowMs * limits.windowMs
  require (requestCount cleaned.usageWindows record.keyId windowStart < limits.requestsPerWindow)
    ⟨"api_key_rate_limited", "API Key rate limit reached.", 429⟩
  require ((cleaned.effectLeases.filter fun row =>
      row.keyId = record.keyId ∧ timestamp < row.expiresAt).length < limits.maxConcurrentEffects)
    ⟨"api_key_concurrency_limit_reached", "API Key concurrency limit reached.", 429⟩
  require (record.status = .active ∧ record.useCount < limits.maxUses ∧
      timestamp < record.expiresAt) useLimitReached
  let lease : EffectLease := {
    keyId := record.keyId
    leaseId := store.drawn
    lifecycleRevision := record.lifecycleRevision
    policyFingerprint := record.policy
    expiresAt := timestamp + env.effectLeaseTtlMs }
  return (lease,
    { cleaned.setRecord record.keyId { record with
        useCount := record.useCount + 1
        status := if limits.maxUses ≤ record.useCount + 1 then .exhausted else record.status } with
      usageWindows := countRequest cleaned.usageWindows record.keyId windowStart limits.windowMs
      effectLeases := cleaned.effectLeases ++ [lease]
      drawn := store.drawn + 1 })

/-- The lease is read at `timestamp` and its key at `nowMs`. -/
def revalidateEffect (keyId : String) (leaseId : Nat) (snapshot : OrganizationSnapshot)
    (timestamp nowMs : Nat) (store : Store) : Except ApiKeyDistributionError Unit :=
  match store.effectLeases.find? fun row => row.keyId = keyId ∧ row.leaseId = leaseId with
  | none => .error (revisionStale "API Key effect lease expired.")
  | some activeLease => do
      require (timestamp < activeLease.expiresAt) (revisionStale "API Key effect lease expired.")
      match store.records activeLease.keyId with
      | none => .error (revisionStale "API Key lifecycle changed before effect.")
      | some row =>
        let record := recordFromRow row nowMs
        -- exhaustion caused by this reservation is allowed
        require ((record.status = .active ∨ record.status = .exhausted) ∧
            row.status ≠ .revoked ∧ row.status ≠ .expired ∧
            record.lifecycleRevision = activeLease.lifecycleRevision ∧
            record.policy = activeLease.policyFingerprint)
          (revisionStale "API Key lifecycle changed before effect.")
        requireLineage record snapshot

def releaseEffect (keyId : String) (leaseId : Nat) (store : Store) : Store :=
  { store with
    effectLeases := store.effectLeases.filter fun row => ¬ (row.keyId = keyId ∧ row.leaseId = leaseId) }

end LicoMesh.ApiKeys

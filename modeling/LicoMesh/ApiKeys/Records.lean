import Mathlib.Data.List.Sort

namespace LicoMesh.ApiKeys

structure ApiKeyDistributionError where
  code : String
  message : String
  statusCode : Nat := 400

structure OrganizationNode where
  nodeId : String
  parentId : String

structure OrganizationSnapshot where
  revision : Nat
  nodes : List OrganizationNode

/-- A `Map` built of the nodes: the last node of an id is the one it answers. -/
def OrganizationSnapshot.nodesById (snapshot : OrganizationSnapshot) (nodeId : String) :
    Option OrganizationNode :=
  snapshot.nodes.reverse.find? (·.nodeId == nodeId)

def ORGANIZATION_GOVERNANCE_MAX_DEPTH : Nat := 32

def malformedOrganization : ApiKeyDistributionError :=
  ⟨"api_key_authority_unavailable", "Organization governance is malformed.", 503⟩

def scopeDenied : ApiKeyDistributionError :=
  ⟨"api_key_scope_denied", "Organization node is outside the issuer scope.", 403⟩

/-- The walk from a node to its root; `room` is how many nodes the lineage may still take. -/
def lineageFrom (nodesById : String → Option OrganizationNode) :
    (room : Nat) → (cursor : Option OrganizationNode) → (lineage : List String) →
      Except ApiKeyDistributionError (List String)
  | _, none, lineage => .ok lineage
  | 0, some _, _ => .error malformedOrganization
  | room + 1, some node, lineage =>
    if node.nodeId ∈ lineage then .error malformedOrganization
    else
      lineageFrom nodesById room (if node.parentId = "" then none else nodesById node.parentId)
        (lineage ++ [node.nodeId])

def organizationLineage (nodeId : String) (nodesById : String → Option OrganizationNode) :
    Except ApiKeyDistributionError (List String) :=
  match lineageFrom nodesById (ORGANIZATION_GOVERNANCE_MAX_DEPTH + 1) (nodesById nodeId) [] with
  | .error failure => .error failure
  | .ok [] => .error scopeDenied
  | .ok lineage => .ok lineage.reverse

/-- The digest of a lineage stands as the lineage it is taken of. -/
abbrev organizationLineageDigest := organizationLineage

structure ScopeRevision where
  organizationRevision : Nat
  authorizationRevision : Nat
  authorizationUpdatedAt : String
  deriving DecidableEq

structure IssuerScopes where
  eligibleNodeIds : List String
  revision : ScopeRevision

def assertApiKeyIssuerTarget (scopes : IssuerScopes) (targetNodeId : String) :
    Except ApiKeyDistributionError Unit :=
  if targetNodeId ∈ scopes.eligibleNodeIds then .ok () else .error scopeDenied

structure PolicyLimits where
  maxUses : Nat
  requestsPerWindow : Nat
  windowSeconds : Nat
  maxConcurrentEffects : Nat
  maxUses_pos : 0 < maxUses
  requestsPerWindow_pos : 0 < requestsPerWindow
  windowSeconds_pos : 0 < windowSeconds
  maxConcurrentEffects_pos : 0 < maxConcurrentEffects
  deriving DecidableEq

def PolicyLimits.windowMs (limits : PolicyLimits) : Nat := limits.windowSeconds * 1000

theorem PolicyLimits.windowMs_pos (limits : PolicyLimits) : 0 < limits.windowMs :=
  Nat.mul_pos limits.windowSeconds_pos (by decide)

/-- A normalized policy; `rules` is the text of the fields that only `requireAllowedOperation`
reads, and `allowedPublicKeyFingerprints` is there when process identity is required. -/
structure Policy where
  serverAudience : String
  targetIds : List String
  connectorPackageIds : List String
  allowedPublicKeyFingerprints : Option (List String)
  limits : PolicyLimits
  rules : String
  deriving DecidableEq

inductive Status
  | active
  | revoked
  | expired
  | exhausted
  deriving DecidableEq

/-- The keyed digest of a credential stands as what it is taken of. -/
structure VerifierDigest where
  key : String
  keyId : String
  secret : String
  deriving DecidableEq

/-- A row of `api_key_records`; the fingerprint of a policy is the policy. -/
structure ApiKeyRecord where
  keyId : String
  verifierGeneration : String
  verifierDigest : VerifierDigest
  workloadPrincipalId : Nat
  organizationNodeId : String
  organizationLineageDigest : List String
  organizationRevisionAtIssue : Nat
  policy : Policy
  status : Status := .active
  lifecycleRevision : Nat := 1
  useCount : Nat := 0
  expiresAt : Nat
  deriving DecidableEq

def recordFromRow (row : ApiKeyRecord) (nowMs : Nat) : ApiKeyRecord :=
  if row.status = .active ∧ row.expiresAt ≤ nowMs then { row with status := .expired }
  else if row.status = .active ∧ row.policy.limits.maxUses ≤ row.useCount then
    { row with status := .exhausted }
  else row

theorem recordFromRow_eq (row : ApiKeyRecord) (nowMs : Nat) :
    recordFromRow row nowMs = { row with status := (recordFromRow row nowMs).status } := by
  unfold recordFromRow
  split_ifs <;> rfl

theorem recordFromRow_active : (recordFromRow row nowMs).status = .active ↔
      row.status = .active ∧ nowMs < row.expiresAt ∧ row.useCount < row.policy.limits.maxUses := by
  unfold recordFromRow
  split_ifs with expired exhausted
  · simp only [false_iff]
    omega
  · simp only [false_iff]
    omega
  · constructor
    · intro active
      refine ⟨active, ?_, ?_⟩
      · exact Nat.lt_of_not_le fun lapsed => expired ⟨active, lapsed⟩
      · exact Nat.lt_of_not_le fun lapsed => exhausted ⟨active, lapsed⟩
    · exact fun facts => facts.1

theorem recordFromRow_exhausted (active : row.status = .active)
    (exhausted : (recordFromRow row nowMs).status = .exhausted) :
    row.policy.limits.maxUses ≤ row.useCount := by
  unfold recordFromRow at exhausted
  split_ifs at exhausted with expired used
  · exact used.2
  · exact nomatch active.symm.trans exhausted

def useLimitReached : ApiKeyDistributionError :=
  ⟨"api_key_use_limit_reached", "API Key use limit reached.", 429⟩

def inactive : ApiKeyDistributionError := ⟨"api_key_inactive", "API Key is inactive.", 410⟩

def errorForInactive (status : Status) : ApiKeyDistributionError :=
  if status = .exhausted then useLimitReached else inactive

structure UsageWindow where
  keyId : String
  windowStart : Nat
  requestCount : Nat
  expiresAt : Nat
  deriving DecidableEq

structure EffectLease where
  keyId : String
  leaseId : Nat
  lifecycleRevision : Nat
  policyFingerprint : Policy
  expiresAt : Nat
  deriving DecidableEq

structure Store where
  records : String → Option ApiKeyRecord := fun _ => none
  usageWindows : List UsageWindow := []
  effectLeases : List EffectLease := []
  drawn : Nat := 0

namespace Store

def setRecord (store : Store) (keyId : String) (record : ApiKeyRecord) : Store :=
  { store with records := Function.update store.records keyId (some record) }

@[simp] theorem setRecord_self (store : Store) (keyId : String) (record : ApiKeyRecord) :
    (store.setRecord keyId record).records keyId = some record :=
  Function.update_self ..

theorem setRecord_other (store : Store) (record : ApiKeyRecord)
    (differs : other ≠ keyId) : (store.setRecord keyId record).records other = store.records other :=
  Function.update_of_ne differs ..

end Store

/-- `DELETE … WHERE rowid IN (SELECT … WHERE expires_at <= ? ORDER BY expires_at ASC LIMIT 256)`. -/
def deleteExpired {ρ : Type} [DecidableEq ρ] (expiresAt : ρ → Nat) (rows : List ρ)
    (timestamp : Nat) : List ρ :=
  let expired := rows.filter (expiresAt · ≤ timestamp)
  let chosen := (expired.insertionSort (expiresAt · ≤ expiresAt ·)).take 256
  rows.filter (· ∉ chosen)

section DeleteExpired

variable {ρ : Type} [DecidableEq ρ] {expiresAt : ρ → Nat} {rows : List ρ} {timestamp : Nat} {row : ρ}

theorem mem_of_mem_deleteExpired (h : row ∈ deleteExpired expiresAt rows timestamp) : row ∈ rows :=
  (List.mem_filter.mp h).1

theorem mem_deleteExpired_of_lt (h : row ∈ rows) (unexpired : timestamp < expiresAt row) :
    row ∈ deleteExpired expiresAt rows timestamp := by
  refine List.mem_filter.mpr ⟨h, ?_⟩
  simp only [decide_not, Bool.not_eq_eq_eq_not, Bool.not_true, decide_eq_false_iff_not]
  intro chosen
  have sorted := List.mem_of_mem_take chosen
  rw [List.mem_insertionSort, List.mem_filter] at sorted
  have expired := of_decide_eq_true sorted.2
  omega

end DeleteExpired

end LicoMesh.ApiKeys

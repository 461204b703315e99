import LicoMesh.UpstreamAudience.Grants

namespace LicoMesh.Governance

open UpstreamAudience (uniqueStrings)
open WorkQueue

/-! The approvals of a governance evaluation: the query chooses some, and they are filtered again
in memory. -/

/-- An approval as `approvalFromRow` leaves it. -/
structure ApprovalRecord where
  userId : String := ""
  agentId : String := ""
  resourceType : String := "*"
  resourceId : String := "*"
  actions : List String
  targetProviders : List String := []
  teamIds : List String := []
  departmentIds : List String := []
  approvalLayers : List String := []
  effect : String := "allow"
  expiresAt : String := ""
  revokedAt : String := ""
  createdAt : String := ""

/-- A request to which governance applies, with its user, teams and departments as
`evaluateGovernance` gathers them. -/
structure GovernanceRequest where
  userId : String := ""
  agentId : String := ""
  resourceType : String
  resourceId : String := "*"
  targetProvider : String := ""
  action : String
  scopeAction : String
  teamIds : List String := []
  departmentIds : List String := []

def listApprovals (rows : List ApprovalRecord) (userId agentId : String) : List ApprovalRecord :=
  (rows.filter fun approval =>
    (userId = "" ∨ approval.userId = userId) ∧ (agentId = "" ∨ approval.agentId = agentId) ∧
      approval.revokedAt = "").mergeSort fun left right => right.createdAt ≤ left.createdAt

def policyMatches (policy : ApprovalRecord) (request : GovernanceRequest) : Bool :=
  let actions := uniqueStrings policy.actions
  let targetProviders := uniqueStrings policy.targetProviders
  (policy.resourceType = "*" ∨ policy.resourceType = toText request.resourceType) ∧
    (policy.resourceId = "*" ∨ policy.resourceId = toText request.resourceId) ∧
    ("*" ∈ actions ∨ toText request.action ∈ actions ∨ request.scopeAction ∈ actions) ∧
    (targetProviders = [] ∨ "*" ∈ targetProviders ∨
      toText request.targetProvider ∈ targetProviders)

/-- `Date.parse`, without a value for a text that is no date, and `Date.now`, which stands still
during an evaluation. -/
structure Clock where
  parse : String → Option Int
  now : Int

def isExpired (clock : Clock) (approval : ApprovalRecord) : Bool :=
  approval.expiresAt ≠ "" ∧ (clock.parse approval.expiresAt).any (· ≤ clock.now)

def shares (restriction own : List String) : Bool :=
  uniqueStrings restriction = [] ∨ (uniqueStrings restriction).any (· ∈ uniqueStrings own)

def isActiveApproval (clock : Clock) (request : GovernanceRequest) (approvalLayer : String)
    (approval : ApprovalRecord) : Bool :=
  let approvalLayers := uniqueStrings approval.approvalLayers
  if approval.effect = "deny" ∨ approval.revokedAt ≠ "" then false
  else if isExpired clock approval then false
  else if approval.userId ≠ "" ∧ request.userId ≠ "" ∧ approval.userId ≠ request.userId then false
  else if approval.agentId ≠ "" ∧ request.agentId ≠ "" ∧ approval.agentId ≠ request.agentId then false
  else if !shares approval.teamIds request.teamIds then false
  else if !shares approval.departmentIds request.departmentIds then false
  else if approvalLayers ≠ [] ∧ approvalLayer ≠ "" ∧ "*" ∉ approvalLayers ∧
      approvalLayer ∉ approvalLayers then false
  else policyMatches approval request

section Evaluation

variable (clock : Clock) (rows : List ApprovalRecord) (request : GovernanceRequest)
  (approvalLayer : String) (approval : ApprovalRecord)

/-- The approvals of `evaluateGovernance` that are active for the layer. -/
def approvalsForLayer : List ApprovalRecord :=
  let active := isActiveApproval clock request
  ((listApprovals rows request.userId request.agentId).filter (active "")).filter
    (active approvalLayer)

def approvalAllowedForLayer : Bool :=
  (approvalsForLayer clock rows request approvalLayer).any (·.effect = "allow")

def Contributes : Prop :=
  approval ∈ approvalsForLayer clock rows request approvalLayer ∧ approval.effect = "allow"

@[mk_iff] structure Applies : Prop where
  notDenied : approval.effect ≠ "deny"
  notRevoked : approval.revokedAt = ""
  notExpired : isExpired clock approval = false
  teams : shares approval.teamIds request.teamIds
  departments : shares approval.departmentIds request.departmentIds
  layer : uniqueStrings approval.approvalLayers = [] ∨ approvalLayer = "" ∨
    "*" ∈ uniqueStrings approval.approvalLayers ∨
    approvalLayer ∈ uniqueStrings approval.approvalLayers
  policy : policyMatches approval request

/-- What an approval is for: a restriction that is left empty restricts nothing. -/
def Qualifies : Prop :=
  Applies clock request approvalLayer approval ∧
    (approval.userId = "" ∨ approval.userId = request.userId) ∧
    (approval.agentId = "" ∨ approval.agentId = request.agentId)

def CountsExactly : Prop :=
  ∀ approvalLayer ∈ ["department", "team", "user", "agent"], ∀ approval ∈ rows,
    Contributes clock rows request approvalLayer approval ↔
      Qualifies clock request approvalLayer approval

/-- The query drops the approval, or the effect is another than `allow`. -/
def IsMissed : Prop :=
  (approval.userId = "" ∨ approval.userId = request.userId) ∧
    (approval.agentId = "" ∨ approval.agentId = request.agentId) ∧
    (approval.userId ≠ request.userId ∧ request.userId ≠ "" ∨
      approval.agentId ≠ request.agentId ∧ request.agentId ≠ "" ∨ approval.effect ≠ "allow")

/-- The approval is for a user or an agent, and the request names none. -/
def IsExcess : Prop :=
  approval.effect = "allow" ∧ (request.userId = "" ∨ approval.userId = request.userId) ∧
    (request.agentId = "" ∨ approval.agentId = request.agentId) ∧
    (approval.userId ≠ "" ∧ request.userId = "" ∨ approval.agentId ≠ "" ∧ request.agentId = "")

end Evaluation

variable {clock : Clock} {rows : List ApprovalRecord} {request : GovernanceRequest}
  {approvalLayer : String} {approval : ApprovalRecord}

theorem approvalAllowedForLayer_iff : approvalAllowedForLayer clock rows request approvalLayer ↔
    ∃ approval, Contributes clock rows request approvalLayer approval := by
  simp only [approvalAllowedForLayer, Contributes, List.any_eq_true, decide_eq_true_eq]

theorem isActiveApproval_iff : isActiveApproval clock request approvalLayer approval ↔
    Applies clock request approvalLayer approval ∧
      (approval.userId = "" ∨ request.userId = "" ∨ approval.userId = request.userId) ∧
      (approval.agentId = "" ∨ request.agentId = "" ∨ approval.agentId = request.agentId) := by
  rw [applies_iff]
  unfold isActiveApproval
  dsimp only
  split_ifs <;> grind

theorem contributes_iff : Contributes clock rows request approvalLayer approval ↔
    approval ∈ rows ∧ Applies clock request approvalLayer approval ∧
      approval.effect = "allow" ∧ (request.userId = "" ∨ approval.userId = request.userId) ∧
      (request.agentId = "" ∨ approval.agentId = request.agentId) := by
  unfold Contributes approvalsForLayer listApprovals
  simp only [List.mem_filter, List.mem_mergeSort, isActiveApproval_iff, decide_eq_true_eq]
  constructor
  · rintro ⟨⟨⟨⟨stored, user, agent, -⟩, -⟩, applies, -⟩, allow⟩
    exact ⟨stored, applies, allow, user, agent⟩
  · rintro ⟨stored, applies, allow, user, agent⟩
    exact ⟨⟨⟨⟨stored, user, agent, applies.notRevoked⟩,
      { applies with layer := .inr (.inl rfl) }, .inr user, .inr agent⟩, applies, .inr user,
      .inr agent⟩, allow⟩

theorem approvals_exact_iff : CountsExactly clock rows request ↔
    ∀ approvalLayer ∈ ["department", "team", "user", "agent"], ∀ approval ∈ rows,
      Applies clock request approvalLayer approval →
        ¬ IsMissed request approval ∧ ¬ IsExcess request approval := by
  refine forall₂_congr fun approvalLayer _ => forall₂_congr fun approval stored => ?_
  rw [contributes_iff]
  unfold Qualifies IsMissed IsExcess
  grind

/-- An approval for every user is not found for a request that names one. -/
theorem unrestricted_approval_dropped : ¬ ∀ clock rows request, CountsExactly clock rows request := by
  intro exact
  have counted := (exact ⟨fun _ => none, 0⟩ [{ actions := ["*"] }]
    { userId := "alice", resourceType := "repo", action := "read", scopeAction := "repo:read" }
    "user" (by decide) _ List.mem_cons_self).mpr
    ⟨⟨by decide, rfl, by decide, by decide, by decide, .inl rfl, by decide⟩, .inl rfl, .inl rfl⟩
  exact absurd (contributes_iff.mp counted).2.2.2.1 (by decide)

end LicoMesh.Governance

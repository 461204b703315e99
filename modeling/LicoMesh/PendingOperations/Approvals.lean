import Mathlib.Data.List.Basic

namespace LicoMesh.PendingOperations

variable {getAgentBinding : String → Option AgentBinding} {required : RequiredApproval}
  {approver : Approver}

def uniqueStrings (values : List String) : List String := (values.filter (· ≠ "")).eraseDups

theorem mem_uniqueStrings : value ∈ uniqueStrings values ↔ value ∈ values ∧ value ≠ "" := by
  unfold uniqueStrings
  rw [List.mem_eraseDups, List.mem_filter, decide_eq_true_eq]

def sameStringSet (left right : List String) : Bool :=
  (uniqueStrings left).isPerm (uniqueStrings right)

def intersects (left right : List String) : Bool :=
  (uniqueStrings left).any (· ∈ uniqueStrings right)

def firstString : List String → String
  | [] => ""
  | value :: rest => if value ≠ "" then value else firstString rest

structure RequiredApproval where
  approvalLayers : List String := []
  grantKinds : List String := []
  userId : String := ""
  subjectId : String := ""
  agentId : String := ""
  agentProfileId : String := ""
  resourceType : String := ""
  resourceId : String := ""
  actions : List String := []
  targetProviders : List String := []
  teamIds : List String := []
  departmentIds : List String := []
  expiresAt : String := ""

/-- An approver as `normalizedApprover` leaves it. -/
structure Approver where
  userId : String
  agentIds : List String := []
  teamIds : List String := []
  departmentIds : List String := []

structure AgentBinding where
  enabled : Bool
  boundUserId : String

def agentBoundToApprover (agentId approverUserId : String)
    (getAgentBinding : String → Option AgentBinding) : Bool :=
  if agentId = "" ∨ approverUserId = "" then false
  else match getAgentBinding agentId with
    | none => false
    | some binding =>
      binding.enabled ∧ binding.boundUserId ≠ "" ∧ binding.boundUserId = approverUserId

structure ApproverDenial where
  reason : String
  deniedLayer : String := ""

def checkLayer (required : RequiredApproval) (approver : Approver)
    (getAgentBinding : String → Option AgentBinding) (layer : String) : Except ApproverDenial Unit :=
  let requiredUserId := firstString [required.userId, required.subjectId]
  let requiredAgentId := firstString [required.agentId, required.agentProfileId]
  if layer = "user" ∧ (requiredUserId = "" ∨ approver.userId ≠ requiredUserId) then
    .error ⟨"user_approver_mismatch", layer⟩
  else if layer = "team" ∧ (uniqueStrings required.teamIds = [] ∨
      intersects approver.teamIds required.teamIds = false) then
    .error ⟨"team_approver_mismatch", layer⟩
  else if layer = "department" ∧ (uniqueStrings required.departmentIds = [] ∨
      intersects approver.departmentIds required.departmentIds = false) then
    .error ⟨"department_approver_mismatch", layer⟩
  else if layer = "agent" ∧ ¬ (requiredUserId ≠ "" ∧ approver.userId = requiredUserId) ∧
      ¬ (requiredAgentId ≠ "" ∧ requiredAgentId ∈ uniqueStrings approver.agentIds) ∧
      agentBoundToApprover requiredAgentId approver.userId getAgentBinding = false then
    .error ⟨"agent_approver_mismatch", layer⟩
  else .ok ()

def checkLayers (required : RequiredApproval) (approver : Approver)
    (getAgentBinding : String → Option AgentBinding) : List String → Except ApproverDenial Unit
  | [] => .ok ()
  | layer :: rest =>
    match checkLayer required approver getAgentBinding layer with
    | .error denial => .error denial
    | .ok () => checkLayers required approver getAgentBinding rest

def approverCanApprovePending (required : RequiredApproval) (approvalLayers : List String)
    (approver : Approver) (getAgentBinding : String → Option AgentBinding) :
    Except ApproverDenial Unit :=
  match uniqueStrings approvalLayers with
  | [] => .ok ()
  | layers =>
    if approver.userId = "" then .error ⟨"approver_session_user_missing", ""⟩
    else checkLayers required approver getAgentBinding layers

structure Satisfies (required : RequiredApproval) (approver : Approver)
    (getAgentBinding : String → Option AgentBinding) (layer : String) : Prop where
  known : approver.userId ≠ ""
  user : layer = "user" → approver.userId = firstString [required.userId, required.subjectId]
  team : layer = "team" → ∃ team ∈ required.teamIds, team ∈ approver.teamIds
  department : layer = "department" →
    ∃ department ∈ required.departmentIds, department ∈ approver.departmentIds
  agent : layer = "agent" →
    approver.userId = firstString [required.userId, required.subjectId] ∨
    firstString [required.agentId, required.agentProfileId] ∈ approver.agentIds ∨
    ∃ binding,
      getAgentBinding (firstString [required.agentId, required.agentProfileId]) = some binding ∧
        binding.enabled = true ∧ binding.boundUserId = approver.userId

theorem intersects_eq_true (h : intersects left right = true) : ∃ value ∈ right, value ∈ left := by
  obtain ⟨value, isLeft, isRight⟩ := List.any_eq_true.mp h
  exact ⟨value, (mem_uniqueStrings.mp (of_decide_eq_true isRight)).1, (mem_uniqueStrings.mp isLeft).1⟩

theorem agentBound_eq_true (h : agentBoundToApprover agentId userId getAgentBinding = true) :
    ∃ binding, getAgentBinding agentId = some binding ∧ binding.enabled = true ∧
      binding.boundUserId = userId := by
  unfold agentBoundToApprover at h
  split_ifs at h
  split at h
  · exact nomatch h
  · next binding present =>
      have facts := of_decide_eq_true h
      exact ⟨binding, present, facts.1, facts.2.2⟩

theorem checkLayer_ok (known : approver.userId ≠ "")
    (ok : checkLayer required approver getAgentBinding layer = .ok ()) :
    Satisfies required approver getAgentBinding layer := by
  unfold checkLayer at ok
  dsimp only at ok
  split_ifs at ok with user team department agent
  refine ⟨known, fun isUser => ?_, fun isTeam => ?_, fun isDepartment => ?_, fun isAgent => ?_⟩
  · by_contra differs
    exact user ⟨isUser, .inr differs⟩
  · exact intersects_eq_true (Bool.not_eq_false _ ▸ fun none => team ⟨isTeam, Or.inr none⟩)
  · exact intersects_eq_true (Bool.not_eq_false _ ▸ fun none => department ⟨isDepartment, Or.inr none⟩)
  · by_contra none
    push Not at none
    refine agent ⟨isAgent, fun own => none.1 own.2, fun session => ?_, ?_⟩
    · exact none.2.1 (mem_uniqueStrings.mp session.2).1
    · refine Bool.eq_false_iff.mpr fun bound => ?_
      obtain ⟨binding, present, enabled, isBound⟩ := agentBound_eq_true bound
      exact none.2.2 binding present enabled isBound

theorem checkLayers_ok (known : approver.userId ≠ "")
    (ok : checkLayers required approver getAgentBinding layers = .ok ()) :
    ∀ layer ∈ layers, Satisfies required approver getAgentBinding layer := by
  induction layers with
  | nil => exact fun layer isIn => nomatch isIn
  | cons first rest induction =>
    unfold checkLayers at ok
    split at ok
    · exact nomatch ok
    · next isFirst =>
        intro layer isIn
        rcases List.mem_cons.mp isIn with rfl | isRest
        · exact checkLayer_ok known isFirst
        · exact induction ok layer isRest

theorem approverCanApprovePending_ok
    (ok : approverCanApprovePending required approvalLayers approver getAgentBinding = .ok ()) :
    ∀ layer ∈ uniqueStrings approvalLayers, Satisfies required approver getAgentBinding layer := by
  unfold approverCanApprovePending at ok
  split at ok
  · next none => rw [none]; exact fun layer isIn => nomatch isIn
  · split_ifs at ok with unknown
    exact checkLayers_ok unknown ok

end LicoMesh.PendingOperations

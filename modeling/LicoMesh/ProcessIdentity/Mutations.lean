import LicoMesh.ProcessIdentity.Operations

namespace LicoMesh.ProcessIdentity

open WorkQueue

def State.claim (state : State) (client : ClientRecord) (now : Instant) : State :=
  { state with
    claimed := true
    claimedAt := some now
    claimCount := state.claimCount + 1
    clients := [client]
    usedNonces := [] }

def State.rotate (state : State) (packageId : String) (next : ClientRecord)
    (now : Instant) : State :=
  { state with
    clients := state.clients.map (fun client =>
      if client.packageId = packageId then
        { client with status := .rotated, rotatedAt := some now }
      else client) ++ [next] }

def State.revokePackage (state : State) (packageId : String) (revoked : ClientRecord) : State :=
  { state with
    clients := state.clients.map fun client =>
      if client.packageId = packageId then revoked else client }

def State.insertBinding (state : State) (binding : OwnerProcessBinding) : State :=
  { state with ownerProcessBindings := state.ownerProcessBindings ++ [binding] }

def State.replaceBinding (state : State) (processIdentityRef : String)
    (next : OwnerProcessBinding) : State :=
  { state with
    ownerProcessBindings := state.ownerProcessBindings.map fun candidate =>
      if candidate.processIdentityRef = processIdentityRef then next else candidate }

def OwnerProcessBinding.revokedWith (binding : OwnerProcessBinding)
    (ownerId ownerGenerationDigest : String) : Bool :=
  binding.belongsTo ownerId ownerGenerationDigest && binding.status ≠ .revoked

def State.retire (env : ServiceEnv) (state : State) (ownerId ownerGenerationDigest : String)
    (now : Instant) : State :=
  { state with
    ownerProcessBindings := state.ownerProcessBindings.map fun binding =>
      if binding.revokedWith ownerId ownerGenerationDigest then
        binding.revoke now (generationReceiptDigest env binding now)
      else binding
    retiredOwnerProcessBindingGenerations :=
      if state.IsRetired ownerId ownerGenerationDigest then
        state.retiredOwnerProcessBindingGenerations
      else state.retiredOwnerProcessBindingGenerations ++
        [{ ownerId := ownerId
           ownerGenerationDigest := ownerGenerationDigest
           retiredAt := now }] }

/-- `Change env ranAt state next rollsBack decision`: a mutation that ran in `state` at `ranAt`
saves `next`, rolls back when the save fails if `rollsBack`, and answers `decision`. -/
inductive Change (env : ServiceEnv) (ranAt : Instant) (state : State) : State → Bool → Decision → Prop
  | claimed {client : ClientRecord} {now : Instant} {decision : Decision}
      (unclaimed : state.claimed = false)
      (unused : ∀ client ∈ state.clients, client.status ≠ .valid) :
      Change env ranAt state (state.claim client now) false decision
  | nonceRecorded {signed : SignedHeaders} {usedNonces : List UsedNonce} {decision : Decision}
      (recorded : recordNonce env signed ranAt state = .recorded usedNonces) :
      Change env ranAt state { state with usedNonces := usedNonces } false decision
  | packageRotated {current next : ClientRecord} {now : Instant} {decision : Decision}
      (active : current ∈ state.clients) :
      Change env ranAt state (state.rotate current.packageId next now) false decision
  | packageRevoked {packageId : String} {revoked : ClientRecord} {decision : Decision} :
      Change env ranAt state (state.revokePackage packageId revoked) false decision
  | bindingIssued {owner : OwnerBindingDecision} {keyDigest deadline : String} {now : Instant}
      (live : state.IsRetired owner.ownerId owner.ownerGenerationDigest = false)
      (absent : ∀ binding ∈ state.ownerProcessBindings, binding.idempotencyKeyDigest ≠ keyDigest) :
      Change env ranAt state
        (state.insertBinding (newOwnerProcessBinding env owner keyDigest deadline now)) true
        (bindingFound (newOwnerProcessBinding env owner keyDigest deadline now))
  | bindingRevoked {binding : OwnerProcessBinding} {receiptDigest : String} {now : Instant}
      (found : state.ownerProcessBindings.find?
        (·.processIdentityRef = binding.processIdentityRef) = some binding)
      (valid : binding.status ≠ .revoked) : Change env ranAt state
        (state.replaceBinding binding.processIdentityRef (binding.revoke now receiptDigest)) true
        (bindingFound (binding.revoke now receiptDigest))
  | generationRetired {ownerId ownerGenerationDigest : String} {now : Instant}
      {decision : Decision} (named : isOwnerId ownerId)
      (digest : isDigestText ownerGenerationDigest) :
      Change env ranAt state (state.retire env ownerId ownerGenerationDigest now) true decision

def Body.Changes (env : ServiceEnv) (now : Instant) (state : State) : Body → Prop
  | .returns _ => True
  | .throws => True
  | .saves next rollsBack decision => Change env now state next rollsBack decision
  | .awaits resume => ∀ reply later, (resume reply later state).Changes env later state

def Reading.Changes (env : ServiceEnv) : Reading → Prop
  | .returns _ => True
  | .throws => True
  | .awaits resume => ∀ reply, (resume reply).Changes env
  | .mutates body => ∀ now state, (body now state).Changes env now state

theorem bootstrapClaim_changes (env : ServiceEnv) (input : BootstrapClaimInput) (now : Instant)
    (state : State) : (bootstrapClaim env input now state).Changes env now state := by
  unfold bootstrapClaim
  split
  · trivial
  · intro expected claimedAt
    cases expected with
    | threw => trivial
    | answered ok applicable token reasonCode =>
      simp only [claimPackage]
      split
      · trivial
      split
      · trivial
      split
      · trivial
      · rename_i open_
        have unclaimed : state.claimed = false := by simp_all
        have unused : ∀ client ∈ state.clients, client.status ≠ .valid := by simp_all
        split
        · trivial
        · intro issued _
          cases issued with
          | threw => trivial
          | answered =>
            intro binding _
            cases binding with
            | threw => trivial
            | answered => exact .claimed unclaimed unused

theorem acceptSignedRequest_changes (env : ServiceEnv) (client : ClientRecord)
    (signed : SignedHeaders) (now : Instant) (state : State) :
    (acceptSignedRequest env client signed now state).Changes env now state := by
  unfold acceptSignedRequest
  split
  · trivial
  · trivial
  · trivial
  · rename_i recorded
    exact .nonceRecorded recorded

theorem awaitCapability_changes
    (changes : accepted.Changes env) (requireBinding : Bool) (capability binding : String) :
    (awaitCapability requireBinding capability binding accepted).Changes env := by
  intro reply
  cases reply with
  | threw => trivial
  | answered ok applicable value reasonCode =>
    by_cases denied : ok = false
    · simp [denied, Reading.Changes]
    · simp only [denied, Bool.not_eq_true']
      intro reply
      cases reply with
      | threw => trivial
      | answered ok applicable value reasonCode =>
        dsimp only
        split
        · trivial
        · exact changes

section

variable (env : ServiceEnv)
include env

theorem verifySignedHeaders_changes (request : SignedRequest)
    (signed : SignedHeaders) (now : Instant) (state : State) :
    (verifySignedHeaders env request signed now state).Changes env := by
  unfold verifySignedHeaders
  split
  · exact .intro
  split
  · exact .intro
  split
  · exact .intro
  · cases findActiveClient state signed.clientId signed.packageId signed.processKeyId with
    | none => exact .intro
    | some client =>
      dsimp only
      cases checkFingerprint env request.headers client.clientFingerprint with
      | error denial => exact .intro
      | ok fingerprint =>
        dsimp only
        split
        · exact .intro
        · refine awaitCapability_changes ?_ _ _ _
          exact acceptSignedRequest_changes env client signed

theorem verifySignedRequest_changes (request : SignedRequest) (now : Instant)
    (state : State) : (verifySignedRequest env request now state).Changes env := by
  unfold verifySignedRequest
  split
  · exact .intro
  · exact verifySignedHeaders_changes env request request.signedHeaders now state

theorem revalidateVerifiedRequest_changes
    (verification : Option Verification) (operation : ProcessIdentityOperation) (now : Instant)
    (state : State) : (revalidateVerifiedRequest verification operation now state).Changes env := by
  unfold revalidateVerifiedRequest
  repeat' split
  all_goals first
    | trivial
    | exact awaitCapability_changes (by trivial) _ _ _

theorem rotateClientIdentityPackage_changes (verified : Verification)
    (input : RotateInput) (now : Instant) (state : State) :
    (rotateClientIdentityPackage verified input now state).Changes env now state := by
  unfold rotateClientIdentityPackage
  split
  · trivial
  · rename_i current found
    have active : current ∈ state.clients := List.mem_of_find?_eq_some found
    intro rotated _
    cases rotated with
    | threw => trivial
    | answered ok applicable credentialId reasonCode =>
      by_cases denied : ok = false
      · simp [denied, Body.Changes]
      · simp only [denied, Bool.not_eq_true']
        intro invalidated _
        cases invalidated with
        | threw => trivial
        | answered =>
          intro bound _
          cases bound with
          | threw => trivial
          | answered => exact .packageRotated active

theorem revokeClientIdentityPackage_changes (verified : Verification)
    (reason : String) (now : Instant) (state : State) :
    (revokeClientIdentityPackage verified reason now state).Changes env now state := by
  intro invalidated _
  cases invalidated with
  | threw => trivial
  | answered =>
    intro unbound _
    cases unbound with
    | threw => trivial
    | answered => exact .packageRevoked

end

section

variable (env : ServiceEnv) (input : OwnerBindingInput) (now : Instant) (state : State)
include env input now state

theorem issueOwnerProcessBinding_changes :
    (issueOwnerProcessBinding env input now state).Changes env now state := by
  unfold issueOwnerProcessBinding
  split
  · trivial
  · split
    · trivial
    · rename_i live
      dsimp only
      split
      · trivial
      · split
        · split <;> trivial
        · rename_i absent
          refine .bindingIssued (by simpa using live) ?_
          simpa using absent

theorem revokeOwnerProcessBinding_changes :
    (revokeOwnerProcessBinding env input now state).Changes env now state := by
  simp only [revokeOwnerProcessBinding]
  split
  · trivial
  · rename_i binding found
    have ref : binding.processIdentityRef = toText input.processIdentityRef := by
      simpa using List.find?_some found
    rw [← ref] at found ⊢
    split
    · trivial
    · split
      · trivial
      · rename_i valid
        exact .bindingRevoked found valid

theorem revokeOwnerProcessBindings_changes :
    (revokeOwnerProcessBindings env input now state).Changes env now state := by
  simp only [revokeOwnerProcessBindings]
  split
  · trivial
  · rename_i owner
    simp only [Bool.or_eq_true, Bool.not_eq_true', not_or, Bool.not_eq_false] at owner
    split
    · trivial
    · split
      · exact .generationRetired owner.1 owner.2
      · trivial

end

def Program.Changes (env : ServiceEnv) : Program → Prop
  | .returns _ => True
  | .reads reading => ∀ now state, (reading now state).Changes env
  | .mutates body => ∀ now state, (body now state).Changes env now state

theorem Operation.program_changes (env : ServiceEnv) (operation : Operation) :
    (operation.program env).Changes env := by
  cases operation with
  | bootstrapClaim input => exact bootstrapClaim_changes env input
  | verifySignedRequest request => exact verifySignedRequest_changes env request
  | revalidateVerifiedRequest verification operation =>
    exact revalidateVerifiedRequest_changes env verification operation
  | rotateClientIdentityPackage verification input =>
    cases verification with
    | none => trivial
    | some verified => exact rotateClientIdentityPackage_changes env verified input
  | revokeClientIdentityPackage verification reason =>
    cases verification with
    | none => trivial
    | some verified => exact revokeClientIdentityPackage_changes env verified reason
  | issueOwnerProcessBinding input => exact issueOwnerProcessBinding_changes env input
  | inspectOwnerProcessBinding input =>
    intro now state
    unfold ProcessIdentity.inspectOwnerProcessBinding
    repeat' split
    all_goals trivial
  | revokeOwnerProcessBinding input => exact revokeOwnerProcessBinding_changes env input
  | revokeOwnerProcessBindings input => exact revokeOwnerProcessBindings_changes env input
  | verifyOwnerProcessBindingsRevoked input =>
    intro now state
    unfold ProcessIdentity.verifyOwnerProcessBindingsRevoked
    dsimp only
    split <;> trivial

def Succeeds (env : ServiceEnv) (ranAt : Instant) (state next : State) : Prop :=
  ∃ saved rollsBack decision,
    Change env ranAt state saved rollsBack decision ∧ next = normalizeState saved

abbrev Descends (env : ServiceEnv) : State → State → Prop :=
  Relation.ReflTransGen fun state next => ∃ ranAt, Succeeds env ranAt state next

end LicoMesh.ProcessIdentity

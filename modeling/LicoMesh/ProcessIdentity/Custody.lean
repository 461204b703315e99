import LicoMesh.Library.Path
import LicoMesh.ProcessIdentity.Mutations

namespace LicoMesh.ProcessIdentity

open Library WorkQueue

/-! A client's package in the three stores that its verification asks: the client list of the
service, the capability keys of the provider and the bindings of the guard. -/

inductive RecordStatus
  | valid
  | invalid
  deriving DecidableEq

/-- The hash of a key stands as the key. -/
structure CapabilityKeyRecord where
  capabilityKey : String
  credentialId : String
  status : RecordStatus
  expiresAt : String

structure CapabilityBindingRecord where
  capabilityKey : String
  credentialId : String
  status : RecordStatus
  context : List String
  expiresAt : String

structure Custody where
  state : State
  savedState : State
  keys : List CapabilityKeyRecord
  bindings : List CapabilityBindingRecord
  keysDrawn : Nat

/-- The random keys are numbered as they are drawn. -/
def createCapabilityKey (drawn : Nat) : String := "ock_" ++ toString drawn

/-- `expiresAt && parseIso(expiresAt) <= parseIso(now)`. -/
def isExpired (env : ServiceEnv) (expiresAt : String) (now : Instant) : Bool :=
  expiresAt ≠ "" && (env.dateParse expiresAt).getD 0 ≤ now

def clientBindingContext (client : ClientRecord) : List String :=
  [client.clientId, client.packageId, client.processKeyId, client.processPublicKeyPem,
    client.clientFingerprint.fingerprintId, client.clientFingerprint.machineInstanceId,
    client.clientFingerprint.appInstanceId, client.clientFingerprint.runtimeInstanceId,
    toString client.identityGeneration]

namespace Custody

variable (custody : Custody)

def getKey (capabilityKey : String) : Option CapabilityKeyRecord :=
  custody.keys.find? fun record => record.capabilityKey = capabilityKey

def putKey (record : CapabilityKeyRecord) : Custody :=
  { custody with
    keys := custody.keys.filter (fun other => other.capabilityKey ≠ record.capabilityKey) ++
      [record]
    keysDrawn := custody.keysDrawn + 1 }

def invalidateKey (capabilityKey : String) : Custody :=
  { custody with
    keys := custody.keys.map fun record =>
      if record.capabilityKey = capabilityKey then { record with status := .invalid }
      else record }

def bindCapabilityKey (binding : CapabilityBindingRecord) : Custody :=
  { custody with
    bindings := custody.bindings.filter (fun other =>
      !(other.capabilityKey = binding.capabilityKey &&
        other.credentialId = binding.credentialId)) ++ [binding] }

def invalidateCapabilityKeyBinding (capabilityKey credentialId : String) : Custody :=
  { custody with
    bindings := custody.bindings.map fun binding =>
      if (capabilityKey ≠ "" && binding.capabilityKey = capabilityKey) ||
          (credentialId ≠ "" && binding.credentialId = credentialId) then
        { binding with status := .invalid }
      else binding }

def verifyKey (env : ServiceEnv) (capabilityKey : String) (now : Instant) : Bool :=
  (custody.getKey capabilityKey).any fun record =>
    record.status = .valid && !isExpired env record.expiresAt now

end Custody

/-- `matchesRecord`: a text that the record has must be the one of the context. -/
def CapabilityBindingRecord.matches (env : ServiceEnv) (binding : CapabilityBindingRecord)
    (context : List String) (now : Instant) : Bool :=
  binding.status = .valid && !isExpired env binding.expiresAt now &&
    (binding.context.zip context).all fun pair => pair.1 = "" || pair.1 = pair.2

namespace Custody

variable (custody : Custody)

/-- `verifyCapabilityKeyBinding`, where a key without a binding is denied. -/
def verifyBinding (env : ServiceEnv) (capabilityKey : String) (client : ClientRecord)
    (now : Instant) : Bool :=
  (custody.bindings.filter fun binding => binding.capabilityKey = capabilityKey &&
    (client.capabilityCredentialId = "" ||
      binding.credentialId = client.capabilityCredentialId)).any fun binding =>
        binding.matches env (clientBindingContext client) now

def verifies (env : ServiceEnv) (client : ClientRecord) (capabilityKey : String)
    (now : Instant) : Bool :=
  (findActiveClient custody.state client.clientId client.packageId client.processKeyId).any
    fun current => custody.verifyKey env capabilityKey now &&
      custody.verifyBinding env capabilityKey current now

end Custody

inductive Write
  | done
  | failed (tookEffect : Bool)
  deriving DecidableEq

abbrev Outcome := Custody × Option Decision

/-- The client of an `ok` answer. -/
def Outcome.rotated (outcome : Outcome) : Option ClientRecord :=
  outcome.2.bind fun decision => if decision.ok then decision.client else none

def Write.andThen (write : Write) (before after : Custody) (next : Custody → Outcome) : Outcome :=
  match write with
  | .done => next after
  | .failed tookEffect => (if tookEffect then after else before, none)

/-- What stops a rotation before its first write: a throw, or a denial of the provider. -/
inductive Refusal
  | threw
  | denied (reasonCode : String)
  deriving DecidableEq

def rotationFailed (reasonCode : String) : Decision :=
  deny 403 (reasonOr reasonCode "process_identity_rotation_denied")
    "Process identity capability key rotation failed."

def Refusal.decision : Refusal → Option Decision
  | .threw => none
  | .denied reasonCode => some (rotationFailed reasonCode)

structure RotationReplies where
  refusal : Option Refusal := none
  invalidateKey : Write := .done
  putKey : Write := .done
  invalidateBinding : Write := .done
  bindKey : Write := .done
  save : Write := .done
  deriving DecidableEq

def rotatedExpiry (input : RotateInput) (current : ClientRecord) : String :=
  toText (if input.expiresAt ≠ "" then input.expiresAt else current.expiresAt)

def credentialIdOf (packageId : String) : String := "procid_" ++ packageId

def rotatedClient (input : RotateInput) (current : ClientRecord) (now : Instant) : ClientRecord :=
  let key := input.publicKey.getD
    { processKeyId := current.processKeyId
      processPublicKeyPem := current.processPublicKeyPem
      processPublicKeyHash := "" }
  let packageId := resolvePackageId input.packageId input.randomUUID
  { current with
    packageId := packageId
    processKeyId := key.processKeyId
    processPublicKeyPem := key.processPublicKeyPem
    identityGeneration := current.identityGeneration + 1
    capabilityCredentialId := credentialIdOf packageId
    status := .valid
    issuedAt := now
    expiresAt := rotatedExpiry input current
    rotatedAt := none
    revokedAt := none
    revocationReason := "" }

namespace Custody

def rotateKey (custody : Custody) (current : ClientRecord) (existing : CapabilityKeyRecord)
    (input : RotateInput) (replies : RotationReplies) (now : Instant) : Outcome :=
  let next := rotatedClient input current now
  let capabilityKey := createCapabilityKey custody.keysDrawn
  replies.invalidateKey.andThen custody (custody.invalidateKey existing.capabilityKey) fun custody =>
  replies.putKey.andThen custody (custody.putKey
    { existing with
      capabilityKey := capabilityKey
      credentialId := next.capabilityCredentialId
      status := .valid }) fun custody =>
  replies.invalidateBinding.andThen custody (custody.invalidateCapabilityKeyBinding
    existing.capabilityKey current.capabilityCredentialId) fun custody =>
  replies.bindKey.andThen custody (custody.bindCapabilityKey
    { capabilityKey := capabilityKey
      credentialId := next.capabilityCredentialId
      status := .valid
      context := clientBindingContext next
      expiresAt := next.expiresAt }) fun custody =>
  let custody := { custody with state := custody.state.rotate current.packageId next now }
  replies.save.andThen custody { custody with savedState := custody.state } fun custody =>
  (custody, some { ok := true, status := some 200, client := some next })

/-- `rotateClientIdentityPackage` with the stores that it awaits. -/
def rotate (custody : Custody) (verified : Verification) (input : RotateInput)
    (replies : RotationReplies) (now : Instant) : Outcome :=
  match findActiveClient custody.state verified.client.clientId verified.client.packageId
      verified.client.processKeyId with
  | none =>
    (custody, some (deny 409 "process_identity_package_not_active"
      "Current process identity package is no longer active."))
  | some current =>
    match replies.refusal, (custody.getKey verified.capabilityKey).filter (·.status = .valid) with
    | some refusal, _ => (custody, refusal.decision)
    | none, none => (custody, some (rotationFailed "capability_key_invalid"))
    | none, some existing => custody.rotateKey current existing input replies now

end Custody

inductive CustodyEvent
  | claim (client : ClientRecord) (keyExpiresAt : String) (issue bind save : Write)
  | rotate (verified : Verification) (input : RotateInput) (replies : RotationReplies)
      (now : Instant)
  | revoke (verified : Verification) (invalidateKey invalidateBinding save : Write)
  | restart
  /-- The other users of the provider and of the guard. -/
  | issueKey (credentialId expiresAt : String)
  | invalidateKey (capabilityKey : String)
  | bindKey (drawn : Nat) (credentialId : String) (context : List String) (expiresAt : String)
  | invalidateBinding (capabilityKey credentialId : String)

namespace Custody

/-- `bootstrapClaim` once its input is accepted. -/
def claim (custody : Custody) (client : ClientRecord) (keyExpiresAt : String)
    (issue bind save : Write) : Outcome :=
  if custody.state.claimed || custody.state.clients.any (·.status = .valid) then
    (custody, some (deny 409 "bootstrap_claim_already_consumed"
      "Process identity bootstrap claim has already been consumed."))
  else
    let client :=
      { client with
        capabilityCredentialId := credentialIdOf client.packageId
        status := .valid }
    let capabilityKey := createCapabilityKey custody.keysDrawn
    issue.andThen custody (custody.putKey
      ⟨capabilityKey, client.capabilityCredentialId, .valid, keyExpiresAt⟩) fun custody =>
    bind.andThen custody (custody.bindCapabilityKey
      ⟨capabilityKey, client.capabilityCredentialId, .valid, clientBindingContext client,
        client.expiresAt⟩) fun custody =>
    let custody := { custody with state := custody.state.claim client client.issuedAt }
    save.andThen custody { custody with savedState := custody.state } fun custody =>
    (custody, some { ok := true, status := some 200, client := some client })

def revoke (custody : Custody) (verified : Verification)
    (invalidateKey invalidateBinding save : Write) : Outcome :=
  invalidateKey.andThen custody (custody.invalidateKey verified.capabilityKey) fun custody =>
  invalidateBinding.andThen custody (custody.invalidateCapabilityKeyBinding
    verified.capabilityKey verified.client.capabilityCredentialId) fun custody =>
  let revoked := { verified.client with status := .revoked }
  let custody :=
    { custody with state := custody.state.revokePackage verified.client.packageId revoked }
  save.andThen custody { custody with savedState := custody.state } fun custody =>
  (custody, some { ok := true, status := some 200 })

def step (custody : Custody) : CustodyEvent → Custody
  | .claim client keyExpiresAt issue bind save =>
    (custody.claim client keyExpiresAt issue bind save).1
  | .rotate verified input replies now => (custody.rotate verified input replies now).1
  | .revoke verified invalidateKey invalidateBinding save =>
    (custody.revoke verified invalidateKey invalidateBinding save).1
  | .restart => { custody with state := custody.savedState }
  | .issueKey credentialId expiresAt =>
    custody.putKey ⟨createCapabilityKey custody.keysDrawn, credentialId, .valid, expiresAt⟩
  | .invalidateKey capabilityKey => custody.invalidateKey capabilityKey
  | .bindKey drawn credentialId context expiresAt =>
    if drawn < custody.keysDrawn then
      custody.bindCapabilityKey
        ⟨createCapabilityKey drawn, credentialId, .valid, context, expiresAt⟩
    else custody
  | .invalidateBinding capabilityKey credentialId =>
    custody.invalidateCapabilityKeyBinding capabilityKey credentialId

abbrev run (custody : Custody) (events : List CustodyEvent) : Custody :=
  runAll step custody events

def fresh (serverIdentity : ServerIdentity) : Custody :=
  ⟨.fresh serverIdentity, .fresh serverIdentity, [], [], 0⟩

end Custody

end LicoMesh.ProcessIdentity

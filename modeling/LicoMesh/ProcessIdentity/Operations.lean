import LicoMesh.ProcessIdentity.State

namespace LicoMesh.ProcessIdentity

open WorkQueue

structure Decision where
  ok : Bool
  applicable : Option Bool := none
  status : Option Nat := none
  reasonCode : String := ""
  error : String := ""
  client : Option ClientRecord := none
  binding : Option OwnerProcessBinding := none
  revokedCount : Option Nat := none
  remainingCount : Option Nat := none

def deny (status : Nat) (reasonCode error : String) : Decision :=
  { ok := false, status := some status, reasonCode := reasonCode, error := error }

/-- What an awaited call outside the service answers. -/
inductive Reply
  | threw
  | answered (ok applicable : Bool) (value reasonCode : String)

/-- A queued mutation: `saves` replaces the state and awaits `save`. -/
inductive Body
  | returns (decision : Decision)
  | throws
  | saves (next : State) (rollsBack : Bool) (decision : Decision)
  | awaits (resume : Reply → Instant → State → Body)

inductive Reading
  | returns (decision : Decision)
  | throws
  | awaits (resume : Reply → Reading)
  | mutates (body : Instant → State → Body)

inductive Program
  | returns (decision : Decision)
  | reads (reading : Instant → State → Reading)
  | mutates (body : Instant → State → Body)

/-- `decision.reasonCode || fallback`. -/
def reasonOr (reasonCode fallback : String) : String :=
  if reasonCode ≠ "" then reasonCode else fallback

def findActiveClient (state : State) (clientId packageId processKeyId : String) :
    Option ClientRecord :=
  state.clients.find? fun client =>
    client.status = .valid && client.clientId = toText clientId &&
      client.packageId = toText packageId && client.processKeyId = toText processKeyId

/-- `publicKeyFromInput`. -/
structure PublicKey where
  processKeyId : String
  processPublicKeyPem : String
  processPublicKeyHash : String
  deriving DecidableEq

structure BootstrapClaimInput where
  requestIsLoopback : Bool := true
  claimToken : String := ""
  publicKey : Option PublicKey := none
  clientId : String := ""
  clientFingerprint : ClientFingerprint := {}
  fingerprintHash : String := ""
  defaultIdentityHash : String := ""
  packageId : String := ""
  randomUUID : String := ""
  expiresAt : String := ""
  deriving DecidableEq

structure NormalizedClient where
  key : PublicKey
  clientId : String
  clientFingerprint : ClientFingerprint

structure ClientInputError where
  reasonCode : String
  message : String

def normalizeClientFingerprint (env : ServiceEnv) (fingerprint : ClientFingerprint)
    (suppliedHash : String) : Except ClientInputError ClientFingerprint :=
  if fingerprint.isEmpty then
    .error ⟨"client_fingerprint_missing", "client fingerprint is required"⟩
  else if !fingerprint.isComplete then
    .error ⟨"client_fingerprint_incomplete", "client fingerprint is incomplete"⟩
  else if suppliedHash ≠ "" && suppliedHash ≠ fingerprint.hash env then
    .error ⟨"client_fingerprint_hash_mismatch", "client fingerprint hash mismatch"⟩
  else .ok fingerprint

def normalizeClientInput (env : ServiceEnv) (input : BootstrapClaimInput) :
    Except ClientInputError NormalizedClient :=
  match input.publicKey with
  | none => .error ⟨"process_public_key_missing", "process public key is required"⟩
  | some key =>
    match normalizeClientFingerprint env input.clientFingerprint input.fingerprintHash with
    | .error error => .error error
    | .ok fingerprint =>
      if toText input.defaultIdentityHash = "" then
        .error ⟨"default_identity_hash_missing", "default identity hash is required"⟩
      else
        .ok
          { key := key
            clientId :=
              if toText input.clientId ≠ "" then toText input.clientId
              else "client_" ++
                String.ofList ((sha256TextBase64Url env key.processPublicKeyHash).toList.take 24)
            clientFingerprint := fingerprint }

/-- The package id of the input, or `cidpkg_` and a random UUID. -/
def resolvePackageId (packageId randomUUID : String) : String :=
  if toText packageId ≠ "" then toText packageId else "cidpkg_" ++ randomUUID

/-- `bootstrapClaim` from the state checks on, with the expected token at hand. -/
def claimPackage (env : ServiceEnv) (input : BootstrapClaimInput) (expected : String)
    (now : Instant) (state : State) : Body :=
  if expected = "" then
    .returns (deny 503 "bootstrap_claim_token_unconfigured"
      "Process identity bootstrap claim token is not configured.")
  else if toText input.claimToken = "" || toText input.claimToken ≠ expected then
    .returns (deny 401 "bootstrap_claim_token_invalid"
      "Process identity bootstrap claim token is invalid.")
  else if state.claimed || state.clients.any (·.status = .valid) then
    .returns (deny 409 "bootstrap_claim_already_consumed"
      "Process identity bootstrap claim has already been consumed.")
  else
    match normalizeClientInput env input with
    | .error error => .returns (deny 400 error.reasonCode error.message)
    | .ok normalized =>
      let packageId := resolvePackageId input.packageId input.randomUUID
      .awaits fun issued _ _ =>
        match issued with
        | .threw => .throws
        | .answered _ _ credentialId _ =>
          let client : ClientRecord :=
            { packageId := packageId
              clientId := normalized.clientId
              processKeyId := normalized.key.processKeyId
              processPublicKeyPem := normalized.key.processPublicKeyPem
              clientFingerprint := normalized.clientFingerprint
              identityGeneration := 1
              capabilityCredentialId := credentialId
              status := .valid
              issuedAt := now
              expiresAt := toText input.expiresAt }
          .awaits fun binding _ state =>
            match binding with
            | .threw => .throws
            | .answered .. =>
              .saves
                { state with
                  claimed := true
                  claimedAt := some now
                  claimCount := state.claimCount + 1
                  clients := [client]
                  usedNonces := [] }
                false { ok := true, status := some 200, client := some client }

def bootstrapClaim (env : ServiceEnv) (input : BootstrapClaimInput) (_ : Instant)
    (_ : State) : Body :=
  if !input.requestIsLoopback then
    .returns (deny 403 "bootstrap_claim_loopback_required"
      "Process identity bootstrap claim is restricted to loopback clients.")
  else
    .awaits fun expected now state =>
      match expected with
      | .threw => .throws
      | .answered _ _ token _ => claimPackage env input (toText token) now state

structure ProcessIdentityOperation where
  required : Bool := true
  requireBinding : Bool := true
  deriving DecidableEq

structure SignedRequest where
  headers : List (String × String) := []
  requestBody : String := ""
  method : String := "GET"
  pathWithQuery : String := "/"
  operation : ProcessIdentityOperation := {}
  deriving DecidableEq

structure SignedHeaders where
  clientId : String
  packageId : String
  processKeyId : String
  timestamp : String
  nonce : String
  bodyHash : String
  signature : String
  capabilityKey : String

def SignedRequest.signedHeaders (request : SignedRequest) : SignedHeaders where
  clientId := headerValue request.headers "x-meshrix-client-id"
  packageId := headerValue request.headers "x-meshrix-identity-package-id"
  processKeyId := headerValue request.headers "x-meshrix-process-key-id"
  timestamp := headerValue request.headers "x-meshrix-timestamp"
  nonce := headerValue request.headers "x-meshrix-nonce"
  bodyHash := lowercase (headerValue request.headers "x-meshrix-body-sha256")
  signature := headerValue request.headers "x-meshrix-signature"
  capabilityKey := capabilityKeyFromHeaders request.headers

namespace SignedHeaders

def isComplete (signed : SignedHeaders) : Bool :=
  [signed.clientId, signed.packageId, signed.processKeyId, signed.timestamp, signed.nonce,
    signed.bodyHash, signed.signature, signed.capabilityKey].all (· ≠ "")

def timestampMs (env : ServiceEnv) (signed : SignedHeaders) : Instant :=
  parseTimestampMs env signed.timestamp

/-- `canonicalProcessIdentityRequest`. -/
def canonical (env : ServiceEnv) (signed : SignedHeaders) (request : SignedRequest)
    (fingerprint : ClientFingerprint) : String :=
  let path := toText request.pathWithQuery
  "\n".intercalate
    (["MESHRIX-PROCESS-IDENTITY-V1", uppercase (toText request.method),
      if path ≠ "" then path else "/", signed.bodyHash, signed.timestamp, signed.nonce,
      signed.clientId, signed.packageId, signed.processKeyId] ++
      if fingerprint.isEmpty then []
      else [fingerprint.fingerprintId, fingerprint.machineInstanceId,
        fingerprint.appInstanceId, fingerprint.runtimeInstanceId, fingerprint.hash env])

end SignedHeaders

inductive NonceDecision
  | replay
  | capacityExhausted
  | unrepresentable
  | recorded (usedNonces : List UsedNonce)

/-- The last instant `toISOString` prints. -/
def maxDateMs : Int := 8640000000000000

def nonceExpiry (env : ServiceEnv) (now timestampMs : Instant) : Instant :=
  max now timestampMs + env.nonceLifetimeMs

def SignedHeaders.nonceHash (env : ServiceEnv) (signed : SignedHeaders) : Sha256Digest :=
  env.sha256 (signed.packageId ++ "\u0000" ++ signed.nonce)

/-- `recordNonce` up to its save. -/
def recordNonce (env : ServiceEnv) (signed : SignedHeaders) (now : Instant) (state : State) :
    NonceDecision :=
  let freshNonces := state.usedNonces.filter (now < ·.expiresAt)
  if freshNonces.any (·.nonceHash = signed.nonceHash env) then .replay
  else if env.resolvedMaxNonceCache ≤ freshNonces.length then .capacityExhausted
  else if maxDateMs < nonceExpiry env now (signed.timestampMs env) then .unrepresentable
  else
    .recorded (freshNonces ++
      [{ nonceHash := signed.nonceHash env
         packageId := toText signed.packageId
         seenAt := now
         expiresAt := nonceExpiry env now (signed.timestampMs env) }])

/-- The mutation `verifySignedRequest` enqueues once every other check passed. -/
def acceptSignedRequest (env : ServiceEnv) (client : ClientRecord) (signed : SignedHeaders)
    (now : Instant) (state : State) : Body :=
  match recordNonce env signed now state with
  | .replay =>
    .returns (deny 401 "process_identity_nonce_replay"
      "Process identity request nonce was already used.")
  | .capacityExhausted =>
    .returns (deny 503 "process_identity_nonce_capacity_exhausted"
      "Process identity replay protection is temporarily at capacity.")
  | .unrepresentable => .throws
  | .recorded usedNonces =>
    .saves { state with usedNonces := usedNonces } false
      { ok := true
        applicable := some true
        reasonCode := "process_identity_verified"
        client := some client }

/-- The provider checks `verifySignedRequest` and `revalidateVerifiedRequest` await. -/
def awaitCapability (requireBinding : Bool) (capabilityError bindingError : String)
    (accepted : Reading) : Reading :=
  .awaits fun capability =>
    match capability with
    | .threw => .throws
    | .answered ok _ _ reasonCode =>
      if !ok then
        .returns (deny 403 (reasonOr reasonCode "process_identity_capability_denied")
          capabilityError)
      else
        .awaits fun binding =>
          match binding with
          | .threw => .throws
          | .answered ok applicable _ reasonCode =>
            if !ok || (requireBinding && !applicable) then
              .returns (deny 403 (reasonOr reasonCode "process_identity_binding_denied")
                bindingError)
            else accepted

def checkFingerprint (env : ServiceEnv) (headers : List (String × String))
    (expected : ClientFingerprint) : Except Decision ClientFingerprint :=
  match clientFingerprintFromHeaders env headers with
  | none =>
    .error (deny 401 "process_identity_client_fingerprint_mismatch"
      "Process identity client fingerprint hash is invalid.")
  | some requested =>
    if expected.fingerprintId = "" then .ok requested
    else if !requested.isComplete then
      .error (deny 401 "process_identity_client_fingerprint_missing"
        "Process identity client fingerprint headers are required.")
    else if expected ≠ requested then
      .error (deny 401 "process_identity_client_fingerprint_mismatch"
        "Process identity client fingerprint does not match the signed package.")
    else .ok requested

/-- `verifySignedRequest` on the signed headers of a request. -/
def verifySignedHeaders (env : ServiceEnv) (request : SignedRequest) (signed : SignedHeaders)
    (now : Instant) (state : State) : Reading :=
  if !signed.isComplete then
    .returns (deny 401 "process_identity_headers_missing"
      "Process identity signature headers are required.")
  else if signed.bodyHash ≠ env.sha256Hex request.requestBody then
    .returns (deny 401 "process_identity_body_hash_mismatch"
      "Process identity body hash mismatch.")
  else if signed.timestampMs env = 0 ||
      env.timestampSkewMs < (now - signed.timestampMs env).natAbs then
    .returns (deny 401 "process_identity_timestamp_invalid"
      "Process identity timestamp is outside the accepted window.")
  else
    match findActiveClient state signed.clientId signed.packageId signed.processKeyId with
    | none =>
      .returns (deny 401 "process_identity_package_unknown"
        "Process identity package is not active.")
    | some client =>
      match checkFingerprint env request.headers client.clientFingerprint with
      | .error denial => .returns denial
      | .ok fingerprint =>
        if !env.verifySignature client.processPublicKeyPem
            (signed.canonical env request fingerprint) signed.signature then
          .returns (deny 401 "process_identity_signature_invalid"
            "Process identity request signature is invalid.")
        else
          awaitCapability request.operation.requireBinding
            "Process identity capability key is not authorized."
            "Process identity capability binding is not authorized."
            (.mutates (acceptSignedRequest env client signed))

def verifySignedRequest (env : ServiceEnv) (request : SignedRequest) (now : Instant)
    (state : State) : Reading :=
  if !request.operation.required then
    .returns
      { ok := true, applicable := some false, reasonCode := "process_identity_not_required" }
  else verifySignedHeaders env request request.signedHeaders now state

/-- `request.__meshrixProcessIdentity`. -/
structure Verification where
  client : ClientRecord
  capabilityKey : String
  deriving DecidableEq

def verificationRequired : Decision :=
  deny 401 "process_identity_verification_required"
    "Current process identity verification is required."

def revalidateVerifiedRequest (verification : Option Verification)
    (operation : ProcessIdentityOperation) (_ : Instant) (state : State) : Reading :=
  match verification with
  | none => .returns verificationRequired
  | some verified =>
    match findActiveClient state verified.client.clientId verified.client.packageId
        verified.client.processKeyId with
    | none =>
      .returns (deny 403 "process_identity_package_not_active"
        "Process identity package is no longer active.")
    | some current =>
      awaitCapability operation.requireBinding
        "Process identity capability key is no longer authorized."
        "Process identity capability binding is no longer authorized."
        (.returns
          { ok := true
            applicable := some true
            reasonCode := "process_identity_current"
            client := some current })

structure RotateInput where
  publicKey : Option PublicKey := none
  packageId : String := ""
  randomUUID : String := ""
  expiresAt : String := ""
  deriving DecidableEq

def rotateClientIdentityPackage (verified : Verification) (input : RotateInput)
    (now : Instant) (state : State) : Body :=
  match findActiveClient state verified.client.clientId verified.client.packageId
      verified.client.processKeyId with
  | none =>
    .returns (deny 409 "process_identity_package_not_active"
      "Current process identity package is no longer active.")
  | some current =>
    let key := input.publicKey.getD
      { processKeyId := current.processKeyId
        processPublicKeyPem := current.processPublicKeyPem
        processPublicKeyHash := "" }
    let packageId := resolvePackageId input.packageId input.randomUUID
    .awaits fun rotated _ _ =>
      match rotated with
      | .threw => .throws
      | .answered ok _ credentialId reasonCode =>
        if !ok then
          .returns (deny 403 (reasonOr reasonCode "process_identity_rotation_denied")
            "Process identity capability key rotation failed.")
        else
          .awaits fun invalidated _ _ =>
            match invalidated with
            | .threw => .throws
            | .answered .. =>
              let nextClient : ClientRecord :=
                { current with
                  packageId := packageId
                  processKeyId := key.processKeyId
                  processPublicKeyPem := key.processPublicKeyPem
                  identityGeneration := current.identityGeneration + 1
                  capabilityCredentialId := credentialId
                  status := .valid
                  issuedAt := now
                  expiresAt :=
                    toText (if input.expiresAt ≠ "" then input.expiresAt
                      else current.expiresAt)
                  rotatedAt := none
                  revokedAt := none
                  revocationReason := "" }
              .awaits fun bound _ state =>
                match bound with
                | .threw => .throws
                | .answered .. =>
                  .saves
                    { state with
                      clients := state.clients.map (fun client =>
                        if client.packageId = current.packageId then
                          { client with status := .rotated, rotatedAt := some now }
                        else client) ++ [nextClient] }
                    false
                    { ok := true, status := some 200, client := some nextClient }

def revokeClientIdentityPackage (verified : Verification) (reason : String)
    (now : Instant) (_ : State) : Body :=
  .awaits fun invalidated _ _ =>
    match invalidated with
    | .threw => .throws
    | .answered .. =>
      .awaits fun unbound _ state =>
        match unbound with
        | .threw => .throws
        | .answered .. =>
          let revokedClient : ClientRecord :=
            { verified.client with
              status := .revoked
              revokedAt := some now
              revocationReason :=
                reasonOr (toText reason) "process_identity_package_revoked" }
          .saves
            { state with
              clients := state.clients.map fun client =>
                if client.packageId = verified.client.packageId then revokedClient
                else client }
            false { ok := true, status := some 200 }

structure IdentityContext where
  tenant : String := ""
  subject : String := ""
  target : String := ""
  device : String := ""
  process : String := ""
  workspace : String := ""
  correlation : String := ""
  deriving DecidableEq

structure OwnerBindingInput where
  ownerId : String := ""
  ownerGenerationDigest : String := ""
  identityContext : IdentityContext := {}
  targetRef : String := ""
  idempotencyKey : String := ""
  deadline : String := ""
  processIdentityRef : String := ""
  deriving DecidableEq

def ownerProcessBindingContext (input : OwnerBindingInput) : Option IdentityContext :=
  let identity := input.identityContext
  let targetRef := toText input.targetRef
  if toText identity.tenant = "" || toText identity.subject = "" || targetRef = "" ||
      (toText identity.target ≠ "" && toText identity.target ≠ targetRef) then none
  else
    some
      { tenant := toText identity.tenant
        subject := toText identity.subject
        target := targetRef
        device := toText identity.device
        process := toText identity.process
        workspace := toText identity.workspace
        correlation := toText identity.correlation }

/-- `sha256Hex(stableJson(value))`. -/
def digestJson (env : ServiceEnv) (value : Json) : String :=
  env.sha256Hex (String.ofList (canonicalJson value))

def IdentityContext.digest (env : ServiceEnv) (context : IdentityContext) : String :=
  digestJson env (.obj
    [("tenant", .str context.tenant), ("subject", .str context.subject),
      ("target", .str context.target), ("device", .str context.device),
      ("process", .str context.process), ("workspace", .str context.workspace),
      ("correlation", .str context.correlation)])

structure OwnerBindingDecision where
  ownerId : String
  ownerGenerationDigest : String
  context : IdentityContext
  contextDigest : String

def ownerProcessBindingDecision (env : ServiceEnv) (input : OwnerBindingInput)
    (binding : Option OwnerProcessBinding) : Except Decision OwnerBindingDecision :=
  let ownerId := toText input.ownerId
  let ownerGenerationDigest := toText input.ownerGenerationDigest
  match ownerProcessBindingContext input with
  | none =>
    .error (deny 400 "owner_process_binding_context_invalid"
      "Owner process binding context is invalid.")
  | some context =>
    if !isOwnerId ownerId || !isDigestText ownerGenerationDigest then
      .error (deny 400 "owner_process_binding_context_invalid"
        "Owner process binding context is invalid.")
    else if binding.any fun binding =>
        binding.ownerId ≠ ownerId || binding.ownerGenerationDigest ≠ ownerGenerationDigest ||
          binding.contextDigest ≠ context.digest env then
      .error (deny 403 "owner_process_binding_mismatch"
        "Owner process binding does not match.")
    else
      .ok
        { ownerId := ownerId
          ownerGenerationDigest := ownerGenerationDigest
          context := context
          contextDigest := context.digest env }

def idempotencyKeyDigest (env : ServiceEnv) (ownerId ownerGenerationDigest key : String) : String :=
  digestJson env (.arr [.str ownerId, .str ownerGenerationDigest, .str key])

def shortDigest (env : ServiceEnv) (value : String) : String :=
  String.ofList ((env.sha256Hex value).toList.take 32)

def State.IsRetired (state : State) (ownerId ownerGenerationDigest : String) : Bool :=
  state.retiredOwnerProcessBindingGenerations.any fun entry =>
    entry.ownerId = ownerId && entry.ownerGenerationDigest = ownerGenerationDigest

def newOwnerProcessBinding (env : ServiceEnv) (decision : OwnerBindingDecision)
    (keyDigest deadline : String) (now : Instant) : OwnerProcessBinding :=
  let processIdentityRef :=
    "procbind_" ++ shortDigest env (decision.contextDigest ++ "\u0000" ++ keyDigest)
  { processIdentityRef := processIdentityRef
    ownerId := decision.ownerId
    ownerGenerationDigest := decision.ownerGenerationDigest
    bindingRef :=
      "binding_" ++ shortDigest env (processIdentityRef ++ "\u0000" ++ decision.contextDigest)
    targetRef := decision.context.target
    contextDigest := decision.contextDigest
    idempotencyKeyDigest := keyDigest
    status := .valid
    issuedAt := now
    expiresAt := toText deadline
    revokedAt := none
    receiptDigest := "" }

def bindingFound (binding : OwnerProcessBinding) : Decision :=
  { ok := true, binding := some binding }

def issueOwnerProcessBinding (env : ServiceEnv) (input : OwnerBindingInput) (now : Instant)
    (state : State) : Body :=
  match ownerProcessBindingDecision env input none with
  | .error denial => .returns denial
  | .ok decision =>
    if state.IsRetired decision.ownerId decision.ownerGenerationDigest then
      .returns (deny 409 "owner_process_binding_generation_retired"
        "Owner process binding generation is retired.")
    else
      let key := toText input.idempotencyKey
      if key = "" || 256 < key.length then
        .returns (deny 400 "owner_process_binding_idempotency_invalid"
          "Owner process binding idempotency key is invalid.")
      else
        let keyDigest :=
          idempotencyKeyDigest env decision.ownerId decision.ownerGenerationDigest key
        match state.ownerProcessBindings.find? (·.idempotencyKeyDigest = keyDigest) with
        | some existing =>
          -- The stored binding answers whatever its status.
          if existing.contextDigest ≠ decision.contextDigest ||
              existing.targetRef ≠ decision.context.target then
            .returns (deny 409 "owner_process_binding_idempotency_conflict"
              "Owner process binding idempotency key conflicts with an existing binding.")
          else .returns (bindingFound existing)
        | none =>
          let binding := newOwnerProcessBinding env decision keyDigest input.deadline now
          .saves
            { state with ownerProcessBindings := state.ownerProcessBindings ++ [binding] }
            true (bindingFound binding)

def bindingNotFound : Decision :=
  deny 404 "owner_process_binding_not_found" "Owner process binding was not found."

def inspectOwnerProcessBinding (env : ServiceEnv) (input : OwnerBindingInput) (_ : Instant)
    (state : State) : Reading :=
  match state.ownerProcessBindings.find?
      (·.processIdentityRef = toText input.processIdentityRef) with
  | none => .returns bindingNotFound
  | some binding =>
    match ownerProcessBindingDecision env { input with targetRef := binding.targetRef }
        (some binding) with
    | .error denial => .returns denial
    | .ok _ => .returns (bindingFound binding)

def revocationReceiptDigest (env : ServiceEnv) (server : ServerIdentity)
    (binding : OwnerProcessBinding) (now : Instant) : String :=
  digestJson env (.obj
    [("receiptKind", .str "owner-process-binding-revocation"), ("ownerId", .str binding.ownerId),
      ("ownerGenerationDigest", .str binding.ownerGenerationDigest), ("status", .str "revoked"),
      ("processIdentityRef", .str binding.processIdentityRef),
      ("bindingRef", .str binding.bindingRef), ("targetRef", .str binding.targetRef),
      ("contextDigest", .str binding.contextDigest), ("revokedAt", .str (env.isoTime now)),
      ("serverId", .str server.serverId), ("serverKeyId", .str server.serverKeyId)])

def generationReceiptDigest (env : ServiceEnv) (binding : OwnerProcessBinding)
    (now : Instant) : String :=
  digestJson env (.obj
    [("receiptKind", .str "owner-process-bindings-revocation"), ("ownerId", .str binding.ownerId),
      ("ownerGenerationDigest", .str binding.ownerGenerationDigest),
      ("processIdentityRef", .str binding.processIdentityRef),
      ("bindingRef", .str binding.bindingRef), ("targetRef", .str binding.targetRef),
      ("contextDigest", .str binding.contextDigest), ("revokedAt", .str (env.isoTime now))])

def OwnerProcessBinding.revoke (binding : OwnerProcessBinding) (now : Instant)
    (receiptDigest : String) : OwnerProcessBinding :=
  { binding with status := .revoked, revokedAt := some now, receiptDigest := receiptDigest }

def revokeOwnerProcessBinding (env : ServiceEnv) (input : OwnerBindingInput) (now : Instant)
    (state : State) : Body :=
  let processIdentityRef := toText input.processIdentityRef
  match state.ownerProcessBindings.find? (·.processIdentityRef = processIdentityRef) with
  | none => .returns bindingNotFound
  | some binding =>
    match ownerProcessBindingDecision env { input with targetRef := binding.targetRef }
        (some binding) with
    | .error denial => .returns denial
    | .ok _ =>
      if binding.status = .revoked then .returns (bindingFound binding)
      else
        let next := binding.revoke now
          (revocationReceiptDigest env state.serverIdentity binding now)
        .saves
          { state with
            ownerProcessBindings := state.ownerProcessBindings.map fun candidate =>
              if candidate.processIdentityRef = processIdentityRef then next
              else candidate }
          true (bindingFound next)

def maxRetiredOwnerProcessBindingGenerations : Nat := 4096

def OwnerProcessBinding.belongsTo (binding : OwnerProcessBinding)
    (ownerId ownerGenerationDigest : String) : Bool :=
  binding.ownerId = ownerId && binding.ownerGenerationDigest = ownerGenerationDigest

def invalidOwner : Decision :=
  deny 400 "owner_process_binding_owner_invalid" "Owner process binding owner is invalid."

def revokeOwnerProcessBindings (env : ServiceEnv) (input : OwnerBindingInput) (now : Instant)
    (state : State) : Body :=
  let ownerId := toText input.ownerId
  let ownerGenerationDigest := toText input.ownerGenerationDigest
  let alreadyRetired := state.IsRetired ownerId ownerGenerationDigest
  let revokes := fun binding : OwnerProcessBinding =>
    binding.belongsTo ownerId ownerGenerationDigest && binding.status ≠ .revoked
  let nextBindings := state.ownerProcessBindings.map fun binding =>
    if revokes binding then
      binding.revoke now (generationReceiptDigest env binding now)
    else binding
  let revokedCount := (state.ownerProcessBindings.filter revokes).length
  let remainingCount := (nextBindings.filter revokes).length
  let decision : Decision :=
    { ok := remainingCount = 0
      revokedCount := some revokedCount
      remainingCount := some remainingCount }
  if !isOwnerId ownerId || !isDigestText ownerGenerationDigest then .returns invalidOwner
  else if !alreadyRetired && maxRetiredOwnerProcessBindingGenerations ≤
      state.retiredOwnerProcessBindingGenerations.length then
    .returns (deny 507 "owner_process_binding_retirement_capacity_exceeded"
      "Owner process binding retirement capacity is full.")
  else if 0 < revokedCount || !alreadyRetired then
    .saves
      { state with
        ownerProcessBindings := nextBindings
        retiredOwnerProcessBindingGenerations :=
          if alreadyRetired then state.retiredOwnerProcessBindingGenerations
          else state.retiredOwnerProcessBindingGenerations ++
            [{ ownerId := ownerId
               ownerGenerationDigest := ownerGenerationDigest
               retiredAt := now }] }
      true decision
  else .returns decision

def verifyOwnerProcessBindingsRevoked (input : OwnerBindingInput) (_ : Instant)
    (state : State) : Reading :=
  let ownerId := toText input.ownerId
  let ownerGenerationDigest := toText input.ownerGenerationDigest
  let remainingCount := (state.ownerProcessBindings.filter fun binding =>
    binding.belongsTo ownerId ownerGenerationDigest && binding.status ≠ .revoked).length
  if !isOwnerId ownerId || !isDigestText ownerGenerationDigest then .returns invalidOwner
  else .returns { ok := remainingCount = 0, remainingCount := some remainingCount }

inductive Operation
  | bootstrapClaim (input : BootstrapClaimInput)
  | verifySignedRequest (request : SignedRequest)
  | revalidateVerifiedRequest (verification : Option Verification)
      (operation : ProcessIdentityOperation)
  | rotateClientIdentityPackage (verification : Option Verification) (input : RotateInput)
  | revokeClientIdentityPackage (verification : Option Verification) (reason : String)
  | issueOwnerProcessBinding (input : OwnerBindingInput)
  | inspectOwnerProcessBinding (input : OwnerBindingInput)
  | revokeOwnerProcessBinding (input : OwnerBindingInput)
  | revokeOwnerProcessBindings (input : OwnerBindingInput)
  | verifyOwnerProcessBindingsRevoked (input : OwnerBindingInput)
  deriving DecidableEq

def Operation.program (env : ServiceEnv) : Operation → Program
  | .bootstrapClaim input => .mutates (ProcessIdentity.bootstrapClaim env input)
  | .verifySignedRequest request => .reads (ProcessIdentity.verifySignedRequest env request)
  | .revalidateVerifiedRequest verification operation =>
    .reads (ProcessIdentity.revalidateVerifiedRequest verification operation)
  | .rotateClientIdentityPackage none _ => .returns verificationRequired
  | .rotateClientIdentityPackage (some verified) input =>
    .mutates (ProcessIdentity.rotateClientIdentityPackage verified input)
  | .revokeClientIdentityPackage none _ => .returns verificationRequired
  | .revokeClientIdentityPackage (some verified) reason =>
    .mutates (ProcessIdentity.revokeClientIdentityPackage verified reason)
  | .issueOwnerProcessBinding input =>
    .mutates (ProcessIdentity.issueOwnerProcessBinding env input)
  | .inspectOwnerProcessBinding input =>
    .reads (ProcessIdentity.inspectOwnerProcessBinding env input)
  | .revokeOwnerProcessBinding input =>
    .mutates (ProcessIdentity.revokeOwnerProcessBinding env input)
  | .revokeOwnerProcessBindings input =>
    .mutates (ProcessIdentity.revokeOwnerProcessBindings env input)
  | .verifyOwnerProcessBindingsRevoked input =>
    .reads (ProcessIdentity.verifyOwnerProcessBindingsRevoked input)

end LicoMesh.ProcessIdentity

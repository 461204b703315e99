import LicoMesh.CapabilityKernel.Store

namespace LicoMesh.CapabilityKernel

open WorkQueue

variable {record : Option KeyRecord} {env : ProviderEnv} {lookupKey : LookupKey}
  {seen : Nat → KernelState} {request : VerifyRequest}

structure ProviderEnv where
  hmacSha256 : LookupKey → String → Sha256Digest
  /-- `KERNEL_CAPABILITY_PERMISSIONS`. -/
  kernelCapabilities : List String

def uniqueStrings (values : List String) : List String :=
  ((values.map toText).filter fun value => value ≠ "").eraseDups

def kernelCapabilityWildcards : List String := ["cap:*", "cap:api:*", "cap:tool:*"]

def isKernelCapabilityPermission (env : ProviderEnv) (value : String) : Bool :=
  toText value ∈ env.kernelCapabilities || toText value ∈ kernelCapabilityWildcards

def isToolIdChar (char : Char) : Bool := char.isAlphanum || char = '.' || char = '_' || char = '-'

/-- `/^cap:tool:[a-z][A-Za-z0-9._-]{0,159}:execute$/u`. -/
def isRegisteredToolCapabilityPermission (value : String) : Bool :=
  let chars := (toText value).toList
  "cap:tool:".toList.isPrefixOf chars && ":execute".toList.isSuffixOf chars &&
    match (chars.drop 9).take (chars.length - 17) with
    | [] => false
    | first :: rest => first.isLower && rest.length ≤ 159 && rest.all isToolIdChar

def unknownKernelCapabilities (env : ProviderEnv) (values : List String) : List String :=
  uniqueStrings ((uniqueStrings values).filter fun capability =>
    !isKernelCapabilityPermission env capability)

def normalizeKernelCapabilities (env : ProviderEnv) (values : List String) : List String :=
  uniqueStrings ((uniqueStrings values).filter (isKernelCapabilityPermission env))

def normalizeRegisteredToolCapabilities (values : List String) : List String :=
  uniqueStrings ((uniqueStrings values).filter isRegisteredToolCapabilityPermission)

def canonicalOpaqueCapabilities (env : ProviderEnv)
    (capabilities trustedCapabilityPermissions : List String) : List String :=
  let capabilityList := uniqueStrings capabilities
  let trusted := normalizeRegisteredToolCapabilities (uniqueStrings trustedCapabilityPermissions)
  (uniqueStrings (uniqueStrings (normalizeKernelCapabilities env capabilityList ++
    capabilityList.filter fun capability => capability ∈ trusted))).insertionSort (· ≤ ·)

/-- The unknown capabilities for which `rejectUnknownOpaqueCapabilities` throws. -/
def unknownOpaqueCapabilities (env : ProviderEnv)
    (capabilities trustedCapabilityPermissions : List String) : List String :=
  let trusted := normalizeRegisteredToolCapabilities (uniqueStrings trustedCapabilityPermissions)
  (unknownKernelCapabilities env (uniqueStrings capabilities)).filter fun capability =>
    capability ∉ trusted

def candidateCapabilitiesFor (requiredCapability : String) : List String :=
  let capability := toText requiredCapability
  if capability = "" then []
  else
    ([capability] ++
      (if "cap:api:".toList.isPrefixOf capability.toList then ["cap:api:*"] else []) ++
      (if "cap:tool:".toList.isPrefixOf capability.toList then ["cap:tool:*"] else []) ++
      ["cap:*"]).eraseDups

/-- `text(key || capabilityKey)`. -/
def rawCapabilityKey (key capabilityKey : String) : String :=
  toText (if key ≠ "" then key else capabilityKey)

def capabilityKeyHash (env : ProviderEnv) (lookupKey : LookupKey) (capabilityKey : String) :
    Sha256Digest :=
  env.hmacSha256 lookupKey capabilityKey

def capabilityPermissionHash (env : ProviderEnv) (lookupKey : LookupKey) (capability : String) :
    Sha256Digest :=
  env.hmacSha256 lookupKey capability

def defaultTtlMs : Int := 1000 * 60 * 60 * 24 * 30

/-- The options of `createKeyRecord`; `randomId` is what `opq_cap_` would draw. -/
structure KeyRecordOptions where
  credentialId : String := ""
  randomId : String
  ttlMs : Int := defaultTtlMs
  issuedAt : Option IsoText := none
  expiresAt : IsoText := none
  grantVersion : Int := 1
  status : CapabilityStatus := .valid

/-- `none` where it throws: a binding needs a kernel capability. -/
def createKeyRecord (env : ProviderEnv) (options : KeyRecordOptions) (keyHash : Sha256Digest)
    (capabilities trustedCapabilityPermissions : List String) (now : Instant) : Option KeyRecord :=
  if (canonicalOpaqueCapabilities env capabilities trustedCapabilityPermissions).isEmpty then none
  else
    let issuedAt := options.issuedAt.getD (some now)
    some
      { keyHash := keyHash
        credentialId :=
          if toText options.credentialId ≠ "" then toText options.credentialId
          else options.randomId
        status := options.status
        grantVersion := if options.grantVersion = 0 then 1 else options.grantVersion
        issuedAt := issuedAt
        expiresAt := options.expiresAt.or (some (isoTime issuedAt +
          max 1 (if options.ttlMs = 0 then defaultTtlMs else options.ttlMs)))
        createdAt := some now
        updatedAt := some now }

structure IssueInput where
  key : String := ""
  capabilityKey : Option String := none
  /-- What `createCapabilityKey` would draw. -/
  randomKey : String
  capabilities : List String
  trustedCapabilityPermissions : List String := []
  replaceCredential : Bool := false
  replacementReason : String := "credential_replaced"
  options : KeyRecordOptions

def IssueInput.rawKey (input : IssueInput) : String :=
  rawCapabilityKey input.key (input.capabilityKey.getD input.randomKey)

def capabilityHashes (env : ProviderEnv) (lookupKey : LookupKey) (capabilities : List String) :
    List Sha256Digest :=
  capabilities.map (capabilityPermissionHash env lookupKey)

/-- What `issue` asks of the store; `none` where it throws before. -/
def issue (env : ProviderEnv) (lookupKey : LookupKey) (input : IssueInput) (now : Instant) :
    Option StoreOp :=
  if unknownOpaqueCapabilities env input.capabilities input.trustedCapabilityPermissions ≠ [] then
    none
  else
    let keyHash := capabilityKeyHash env lookupKey input.rawKey
    let normalizedCapabilities :=
      canonicalOpaqueCapabilities env input.capabilities input.trustedCapabilityPermissions
    (createKeyRecord env input.options keyHash normalizedCapabilities normalizedCapabilities
      now).map fun record =>
        if input.replaceCredential then
          .replaceCredential record (capabilityHashes env lookupKey normalizedCapabilities)
            input.replacementReason
        else .put record (capabilityHashes env lookupKey normalizedCapabilities)

structure VerifyDecision where
  ok : Bool
  reasonCode : String
  credentialId : String := ""
  unknownCapabilities : List String := []
  requiredCapabilities : List String := []
  missingCapabilities : List String := []
  expiresAt : IsoText := none

def validateKeyRecord (record : Option KeyRecord) (now : Instant) (minGrantVersion : Int) :
    Except VerifyDecision KeyRecord :=
  match record with
  | none => .error { ok := false, reasonCode := "capability_key_unknown" }
  | some record =>
    if record.status ≠ .valid then
      .error
        { ok := false
          reasonCode := "capability_key_invalid"
          credentialId := record.credentialId }
    else if record.grantVersion < minGrantVersion then
      .error
        { ok := false
          reasonCode := "credential_grant_version_stale"
          credentialId := record.credentialId }
    else if record.expiresAt.isSome && isoTime record.expiresAt ≤ now then
      .error
        { ok := false
          reasonCode := "capability_key_expired"
          credentialId := record.credentialId }
    else .ok record

structure VerifyRequest where
  key : String := ""
  capabilityKey : String := ""
  requiredCapability : String := ""
  requiredCapabilities : List String := []
  now : Instant
  minGrantVersion : Int := 0

def VerifyRequest.rawKey (request : VerifyRequest) : String :=
  rawCapabilityKey request.key request.capabilityKey

def VerifyRequest.requestedCapabilities (request : VerifyRequest) : List String :=
  if request.requiredCapability ≠ "" then [request.requiredCapability]
  else uniqueStrings request.requiredCapabilities

def VerifyRequest.unknownRequired (env : ProviderEnv) (request : VerifyRequest) : List String :=
  let requested := request.requestedCapabilities
  (unknownKernelCapabilities env requested).filter fun capability =>
    capability ∉ normalizeRegisteredToolCapabilities requested

def VerifyRequest.required (env : ProviderEnv) (request : VerifyRequest) : List String :=
  canonicalOpaqueCapabilities env request.requestedCapabilities
    (normalizeRegisteredToolCapabilities request.requestedCapabilities)

/-- `seen 0` is the store's state at the `get`, `seen n` at the `n`-th `hasCapability`. -/
def missingCapabilities (env : ProviderEnv) (lookupKey : LookupKey) (keyHash : Sha256Digest)
    (seen : Nat → KernelState) (required : List String) : List String :=
  (required.zipIdx.filter fun (capability, index) =>
    !(seen (index + 1)).hasCapability keyHash
      ((candidateCapabilitiesFor capability).map (capabilityPermissionHash env lookupKey))).map
    Prod.fst

def verify (env : ProviderEnv) (lookupKey : LookupKey) (seen : Nat → KernelState)
    (request : VerifyRequest) : VerifyDecision :=
  if request.rawKey = "" then { ok := false, reasonCode := "capability_key_missing" }
  else if request.unknownRequired env ≠ [] then
    { ok := false
      reasonCode := "unknown_capability"
      unknownCapabilities := request.unknownRequired env }
  else if request.required env = [] then { ok := false, reasonCode := "capability_required" }
  else
    let keyHash := capabilityKeyHash env lookupKey request.rawKey
    match validateKeyRecord ((seen 0).get keyHash) request.now request.minGrantVersion with
    | .error rejected => rejected
    | .ok record =>
      let missing := missingCapabilities env lookupKey keyHash seen (request.required env)
      if missing ≠ [] then
        { ok := false
          reasonCode := "missing_capabilities"
          credentialId := record.credentialId
          missingCapabilities := missing }
      else
        { ok := true
          reasonCode := "capability_key_valid"
          credentialId := record.credentialId
          requiredCapabilities := request.required env
          expiresAt := record.expiresAt }

/-- The valid keys of a credential that `invalidateCredential` goes through. -/
def credentialKeyHashes (state : KernelState) (credentialId : String) : List Sha256Digest :=
  if toText credentialId = "" then []
  else
    ((state.list false).filter fun record => record.credentialId = toText credentialId).map
      (·.keyHash)

theorem validateKeyRecord_ok_iff : validateKeyRecord record now minGrantVersion = .ok result ↔
      record = some result ∧ result.status = .valid ∧ minGrantVersion ≤ result.grantVersion ∧
        ¬(result.expiresAt.isSome = true ∧ isoTime result.expiresAt ≤ now) := by
  cases record with
  | none => simp [validateKeyRecord]
  | some record =>
    unfold validateKeyRecord
    dsimp only
    constructor
    · intro accepted
      split at accepted
      · cases accepted
      · split at accepted
        · cases accepted
        · split at accepted
          · cases accepted
          · rename_i valid fresh unexpired
            cases accepted
            exact ⟨rfl, not_not.mp valid, by omega, by simpa using unexpired⟩
    · intro accepted
      obtain ⟨same, valid, fresh, unexpired⟩ := accepted
      obtain rfl : record = result := Option.some.inj same
      rw [if_neg (not_not.mpr valid), if_neg (by omega), if_neg (by simpa using unexpired)]

theorem not_ok_of_validateKeyRecord
    (refused : validateKeyRecord record now minGrantVersion = .error rejected) :
    rejected.ok = false := by
  cases record with
  | none =>
    cases refused
    rfl
  | some record =>
    unfold validateKeyRecord at refused
    dsimp only at refused
    split at refused
    · cases refused
      rfl
    · split at refused
      · cases refused
        rfl
      · split at refused
        · cases refused
          rfl
        · cases refused

theorem verify_ok_iff : (verify env lookupKey seen request).ok = true ↔
      request.rawKey ≠ "" ∧ request.unknownRequired env = [] ∧ request.required env ≠ [] ∧
        (∃ record, validateKeyRecord
          ((seen 0).get (capabilityKeyHash env lookupKey request.rawKey)) request.now
            request.minGrantVersion = .ok record) ∧
        missingCapabilities env lookupKey (capabilityKeyHash env lookupKey request.rawKey) seen
          (request.required env) = [] := by
  unfold verify
  split
  · rename_i blank
    simp [blank]
  · split
    · rename_i unknown
      simp [unknown]
    · split
      · rename_i absent
        simp [absent]
      · rename_i named known required
        dsimp only
        split
        · rename_i rejected checked
          simp [checked, not_ok_of_validateKeyRecord checked]
        · rename_i record checked
          split
          · rename_i missing
            simp [missing]
          · rename_i complete
            simp [named, not_not.mp known, required, not_not.mp complete, checked]

theorem verify_of_revoked
    (revoked : (seen 0).Revoked (capabilityKeyHash env lookupKey request.rawKey)) :
    (verify env lookupKey seen request).ok = false := by
  by_contra accepted
  obtain ⟨-, -, -, ⟨record, checked⟩, -⟩ := verify_ok_iff.mp (Bool.not_eq_false _ ▸ accepted)
  obtain ⟨found, valid, -⟩ := validateKeyRecord_ok_iff.mp checked
  obtain ⟨other, present, invalid⟩ := revoked
  obtain rfl : record = other := by simpa [KernelState.get, present] using found.symm
  rw [valid] at invalid
  cases invalid

def sampleHmacs : List (String × String) :=
  [("ock_sample", "94751c5f56ae1298905d33978b043b9aa1b1466f1e512319c7ebbabd7ccc8bed"),
    ("cap:*", "72d99595802c706320174555cbd85b3fbe4265045322193cf33ce0150d4b1c5c"),
    ("cap:api:*", "28d2c2616bef778572f00ad1c5cbaf68243ad98300670a787942192d0a6c38ff"),
    ("cap:tool:*", "d3234b19dce4fd748ceb1db792e6fd44234ef187c675568f4d4e95cbd2bc7253"),
    ("cap:api:authorization.roles.list",
      "f01af7a49aa2835a475390fed3aaa7e85e70277a0318206372f4398549d5ce3a"),
    ("cap:tool:meshrix.jobs.list:execute",
      "6fe0be05cfc3757f3768afcb0a5e684f393c5948afc09e3cb17cf82f9606ce48")]

def sampleLookupKey : LookupKey := "AAAAAAAAAAAAAAAAAAAAAAAAAAAAAAAAAAAAAAAAAAA="

def sampleProviderEnv : ProviderEnv where
  hmacSha256 := fun _ value => digestOfHex ((sampleHmacs.lookup value).getD "")
  kernelCapabilities := ["cap:api:authorization.roles.list", "cap:tool:meshrix.jobs.list:execute"]

end LicoMesh.CapabilityKernel

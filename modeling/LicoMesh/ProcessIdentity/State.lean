import LicoMesh.WorkQueue.Serialization

namespace LicoMesh.ProcessIdentity

open WorkQueue

abbrev Instant := Int

structure ClientFingerprint where
  fingerprintId : String := ""
  machineInstanceId : String := ""
  appInstanceId : String := ""
  runtimeInstanceId : String := ""
  deriving DecidableEq

inductive ClientStatus
  | valid
  | rotated
  | revoked
  deriving DecidableEq

structure ClientRecord where
  packageId : String
  clientId : String
  processKeyId : String
  processPublicKeyPem : String
  clientFingerprint : ClientFingerprint
  identityGeneration : Nat
  capabilityCredentialId : String
  status : ClientStatus
  issuedAt : Instant
  expiresAt : String
  rotatedAt : Option Instant := none
  revokedAt : Option Instant := none
  revocationReason : String := ""
  deriving DecidableEq

inductive BindingStatus
  | valid
  | revoked
  deriving DecidableEq

structure OwnerProcessBinding where
  processIdentityRef : String
  ownerId : String
  ownerGenerationDigest : String
  bindingRef : String
  targetRef : String
  contextDigest : String
  idempotencyKeyDigest : String
  status : BindingStatus
  issuedAt : Instant
  expiresAt : String
  revokedAt : Option Instant
  receiptDigest : String
  deriving DecidableEq

structure RetiredGeneration where
  ownerId : String
  ownerGenerationDigest : String
  retiredAt : Instant
  deriving DecidableEq

structure UsedNonce where
  nonceHash : Sha256Digest
  packageId : String
  seenAt : Instant
  expiresAt : Instant
  deriving DecidableEq

structure ServerIdentity where
  serverId : String
  serverKeyId : String
  deriving DecidableEq

structure State where
  serverIdentity : ServerIdentity
  claimed : Bool
  claimedAt : Option Instant
  claimCount : Nat
  clients : List ClientRecord
  ownerProcessBindings : List OwnerProcessBinding
  retiredOwnerProcessBindingGenerations : List RetiredGeneration
  usedNonces : List UsedNonce
  deriving DecidableEq

/-- `normalizeState({ alias })` with a generated server identity. -/
def State.fresh (serverIdentity : ServerIdentity) : State where
  serverIdentity := serverIdentity
  claimed := false
  claimedAt := none
  claimCount := 0
  clients := []
  ownerProcessBindings := []
  retiredOwnerProcessBindingGenerations := []
  usedNonces := []

/-- `/^[a-f0-9]{64}$/`. -/
def isDigestText (text : String) : Bool :=
  text.toList.length = 64 && text.toList.all fun c => c.isDigit || ('a' ≤ c && c ≤ 'f')

/-- `/^[a-z0-9][a-z0-9-]{0,127}$/`. -/
def isOwnerId (text : String) : Bool :=
  match text.toList with
  | [] => false
  | first :: rest =>
    (first.isDigit || first.isLower) && rest.length ≤ 127 &&
      rest.all fun c => c.isDigit || c.isLower || c = '-'

/-- `normalizeState` of a current-format state: incomplete entries are dropped. -/
def normalizeState (state : State) : State :=
  { state with
    clients := state.clients.filter fun client => client.packageId ≠ ""
    ownerProcessBindings := state.ownerProcessBindings.filter fun binding =>
      binding.processIdentityRef ≠ "" && binding.bindingRef ≠ ""
    retiredOwnerProcessBindingGenerations :=
      state.retiredOwnerProcessBindingGenerations.filter fun entry =>
        entry.ownerId ≠ "" && isDigestText entry.ownerGenerationDigest }

structure ServiceEnv where
  maxTimestampSkewMs : Nat := 300000
  nonceTtlMs : Nat := 300000
  maxNonceCache : Nat := 4096
  sha256 : String → Sha256Digest
  verifySignature : (publicKeyPem canonical signature : String) → Bool
  dateParse : String → Option Instant
  isoTime : Instant → String

namespace ServiceEnv

def defaultNonceTtlMs : Nat := 300000

/-- `Math.max(1000, Number(maxTimestampSkewMs || DEFAULT_NONCE_TTL_MS))`. -/
def timestampSkewMs (env : ServiceEnv) : Nat :=
  max 1000 (if env.maxTimestampSkewMs = 0 then defaultNonceTtlMs else env.maxTimestampSkewMs)

/-- `Math.max(1, Number(nonceTtlMs || DEFAULT_NONCE_TTL_MS))`. -/
def nonceLifetimeMs (env : ServiceEnv) : Nat :=
  max 1 (if env.nonceTtlMs = 0 then defaultNonceTtlMs else env.nonceTtlMs)

def resolvedMaxNonceCache (env : ServiceEnv) : Nat :=
  if 0 < env.maxNonceCache then env.maxNonceCache else 4096

def sha256Hex (env : ServiceEnv) (value : String) : String := (env.sha256 value).hex

end ServiceEnv

/-- `parseTimestampMs`; 0 stands for no timestamp. -/
def parseTimestampMs (env : ServiceEnv) (value : String) : Instant :=
  let raw := toText value
  if raw = "" then 0
  else if raw.toList.all Char.isDigit then
    let numeric : Int := raw.toList.foldl (fun total c => total * 10 + (c.toNat - 48)) (0 : Nat)
    if 10000000000 < numeric then numeric else numeric * 1000
  else (env.dateParse raw).getD 0

def base64UrlChar (sextet : Nat) : Char :=
  if sextet < 26 then Char.ofNat (65 + sextet)
  else if sextet < 52 then Char.ofNat (97 + (sextet - 26))
  else if sextet < 62 then Char.ofNat (48 + (sextet - 52))
  else if sextet = 62 then '-' else '_'

def base64Url : List UInt8 → List Char
  | [] => []
  | [a] =>
    [base64UrlChar (a.toNat / 4), base64UrlChar (a.toNat % 4 * 16)]
  | [a, b] =>
    [base64UrlChar (a.toNat / 4), base64UrlChar (a.toNat % 4 * 16 + b.toNat / 16),
      base64UrlChar (b.toNat % 16 * 4)]
  | a :: b :: c :: rest =>
    base64UrlChar (a.toNat / 4) :: base64UrlChar (a.toNat % 4 * 16 + b.toNat / 16) ::
      base64UrlChar (b.toNat % 16 * 4 + c.toNat / 64) :: base64UrlChar (c.toNat % 64) ::
        base64Url rest

def sha256TextBase64Url (env : ServiceEnv) (value : String) : String :=
  String.ofList (base64Url (env.sha256 value).val)

/-- `toLowerCase`. -/
def lowercase (value : String) : String := String.ofList (value.toList.map Char.toLower)

/-- `toUpperCase`. -/
def uppercase (value : String) : String := String.ofList (value.toList.map Char.toUpper)

/-- `headerValue`: header names are compared without case, values are trimmed. -/
def headerValue (headers : List (String × String)) (name : String) : String :=
  toText (((headers.find? fun header => lowercase header.1 = lowercase name).map Prod.snd).getD "")

/-- `/^Bearer\s+(ock_[A-Za-z0-9_-]+)$/i`. -/
def bearerKey (authorization : List Char) : Option String :=
  let scheme := authorization.take 6
  let rest := authorization.drop 6
  let key := rest.dropWhile isTrimmedSpace
  if scheme.map Char.toLower = "bearer".toList && rest ≠ key &&
      (key.take 4).map Char.toLower = "ock_".toList && key.drop 4 ≠ [] &&
      (key.drop 4).all fun c => c.isAlphanum || c = '_' || c = '-' then
    some (String.ofList key)
  else none

def capabilityKeyFromHeaders (headers : List (String × String)) : String :=
  let explicit := headerValue headers "x-meshrix-capability-key"
  if explicit ≠ "" then explicit
  else (bearerKey (headerValue headers "authorization").toList).getD ""

namespace ClientFingerprint

def isEmpty (fingerprint : ClientFingerprint) : Bool :=
  fingerprint.fingerprintId = "" && fingerprint.machineInstanceId = "" &&
    fingerprint.appInstanceId = "" && fingerprint.runtimeInstanceId = ""

/-- `clientFingerprintHash`. -/
def hash (env : ServiceEnv) (fingerprint : ClientFingerprint) : String :=
  "sha256:" ++ sha256TextBase64Url env ("\n".intercalate
    ["v0.0.1:client:fingerprint-1", fingerprint.fingerprintId, fingerprint.machineInstanceId,
      fingerprint.appInstanceId, fingerprint.runtimeInstanceId])

def isComplete (fingerprint : ClientFingerprint) : Bool :=
  fingerprint.fingerprintId ≠ "" && fingerprint.machineInstanceId ≠ "" &&
    fingerprint.appInstanceId ≠ "" && fingerprint.runtimeInstanceId ≠ ""

end ClientFingerprint

/-- `clientFingerprintFromHeaders`; `none` is a supplied hash that does not match. -/
def clientFingerprintFromHeaders (env : ServiceEnv) (headers : List (String × String)) :
    Option ClientFingerprint :=
  let fingerprint : ClientFingerprint :=
    { fingerprintId := headerValue headers "x-meshrix-client-fingerprint-id"
      machineInstanceId := headerValue headers "x-meshrix-machine-instance-id"
      appInstanceId := headerValue headers "x-meshrix-app-instance-id"
      runtimeInstanceId := headerValue headers "x-meshrix-runtime-instance-id" }
  let supplied := headerValue headers "x-meshrix-client-fingerprint-hash"
  if !fingerprint.isEmpty && supplied ≠ "" && supplied ≠ fingerprint.hash env then none
  else some fingerprint

end LicoMesh.ProcessIdentity

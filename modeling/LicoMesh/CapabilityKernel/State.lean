import LicoMesh.Library.Replay
import LicoMesh.Library.TableMerge
import LicoMesh.WorkQueue.Serialization

namespace LicoMesh.CapabilityKernel

open Library WorkQueue

abbrev Instant := Int

/-- An ISO text: `none` is the empty text, a text that does not parse stands at 0. -/
abbrev IsoText := Option Instant

def isoTime (value : IsoText) : Instant := value.getD 0

def earlierIso (a b : IsoText) : IsoText :=
  if isoTime a = 0 then b
  else if isoTime b = 0 then a
  else if isoTime a ≤ isoTime b then a else b

def laterIso (a b : IsoText) : IsoText :=
  if isoTime a = 0 then b
  else if isoTime b = 0 then a
  else if isoTime b ≤ isoTime a then a else b

inductive CapabilityStatus
  | valid
  | invalid
  deriving DecidableEq

structure KeyRecord where
  keyHash : Sha256Digest
  credentialId : String
  status : CapabilityStatus
  grantVersion : Int := 1
  issuedAt : IsoText
  expiresAt : IsoText
  invalidatedAt : IsoText := none
  invalidationReason : String := ""
  createdAt : IsoText
  updatedAt : IsoText

structure PermissionRecord where
  keyHash : Sha256Digest
  capabilityHash : Sha256Digest
  status : CapabilityStatus
  createdAt : IsoText

/-- The pair that `keyHash:capabilityHash` spells. -/
def PermissionRecord.key (permission : PermissionRecord) : Sha256Digest × Sha256Digest :=
  (permission.keyHash, permission.capabilityHash)

inductive KernelAction
  | put (keyHash : Sha256Digest) (capabilityHashCount : Nat)
  | replaceCredential (credentialId : String) (keyHash : Sha256Digest)
      (replacedKeyCount capabilityHashCount : Nat)
  | invalidate (keyHash : Sha256Digest) (reason : String)
  | rotateRuntimeLookupKey

structure KernelEvent where
  eventId : String
  happenedAt : Instant
  action : KernelAction

abbrev LookupKey := String

structure KernelState where
  epoch : Nat
  runtimeLookupKey : LookupKey
  records : Table Sha256Digest KeyRecord KeyRecord.keyHash
  permissions : Table (Sha256Digest × Sha256Digest) PermissionRecord PermissionRecord.key
  events : List KernelEvent
  createdAt : IsoText
  updatedAt : IsoText

def createEmptyKernelState (runtimeLookupKey : LookupKey) (now : Instant) : KernelState where
  epoch := 1
  runtimeLookupKey := runtimeLookupKey
  records := .empty
  permissions := .empty
  events := []
  createdAt := some now
  updatedAt := some now

/-- `events.slice(-2048)`. -/
def lastEvents (events : List KernelEvent) : List KernelEvent := events.drop (events.length - 2048)

def normalizeKernelState (state : KernelState) : KernelState :=
  { state with epoch := max 1 state.epoch, events := lastEvents state.events }

/-- `mergeKeyRecord`: an invalid record wins, else the later update. -/
def mergeKeyRecord : Table.Join KeyRecord.keyHash where
  join current next :=
    if current.status = .valid && next.status = .valid then
      if isoTime (current.updatedAt.or current.createdAt) ≤
          isoTime (next.updatedAt.or next.createdAt) then next
      else current
    else
      let invalid := if current.status ≠ .valid then current else next
      let other := if current.status ≠ .valid then next else current
      { invalid with
        status := .invalid
        invalidatedAt := laterIso current.invalidatedAt next.invalidatedAt
        invalidationReason :=
          if invalid.invalidationReason ≠ "" then invalid.invalidationReason
          else other.invalidationReason
        createdAt := earlierIso current.createdAt next.createdAt
        updatedAt := laterIso current.updatedAt next.updatedAt }
  keeps current next same := by
    dsimp only
    split
    · split
      · exact same.symm
      · rfl
    · split
      · rfl
      · exact same.symm

def mergePermissionRecord : Table.Join PermissionRecord.key where
  join existing candidate :=
    { candidate with
      status :=
        if existing.status = .valid && candidate.status = .valid then .valid else .invalid
      createdAt := earlierIso existing.createdAt candidate.createdAt }
  keeps _ _ same := same.symm

/-- `eventsById`. -/
def mergeEvents (persisted hot : List KernelEvent) : List KernelEvent :=
  ((persisted ++ hot).foldl (fun eventsById event => mapSet event.eventId event eventsById)
    []).map Prod.snd

def mergeKernelStates (persisted hot : KernelState) : KernelState :=
  let persisted := normalizeKernelState persisted
  let hot := normalizeKernelState hot
  if persisted.runtimeLookupKey ≠ hot.runtimeLookupKey then persisted
  else
    normalizeKernelState
      { persisted with
        epoch := max persisted.epoch hot.epoch
        records := persisted.records.merge mergeKeyRecord hot.records
        permissions := persisted.permissions.merge mergePermissionRecord hot.permissions
        events := lastEvents (mergeEvents persisted.events hot.events)
        createdAt := earlierIso persisted.createdAt hot.createdAt
        updatedAt := laterIso persisted.updatedAt hot.updatedAt }

def KeyRecord.invalidate (record : KeyRecord) (now : Instant) (reason : String) : KeyRecord :=
  { record with
    status := .invalid
    invalidatedAt := some now
    invalidationReason := toText reason
    updatedAt := some now }

def PermissionRecord.invalidate (permission : PermissionRecord) : PermissionRecord :=
  { permission with status := .invalid }

namespace KernelState

variable (state : KernelState)

/-- The permission rows an issue of `record` sets. -/
def permissionRows (record : KeyRecord) (capabilityHashes : List Sha256Digest) (now : Instant) :
    List PermissionRecord :=
  capabilityHashes.map fun capabilityHash =>
    { keyHash := record.keyHash
      capabilityHash := capabilityHash
      status := record.status
      createdAt := some now }

def put (record : KeyRecord) (capabilityHashes : List Sha256Digest) (now : Instant) : KernelState :=
  { state with
    records := state.records.set record
    permissions := state.permissions.setAll (permissionRows record capabilityHashes now) }

def replacedKeyHashes (credentialId : String) : List Sha256Digest :=
  (state.records.rows.filter fun item =>
    item.credentialId = credentialId && item.status = .valid).map (·.keyHash)

def invalidateCredential (credentialId : String) (now : Instant) (reason : String) : KernelState :=
  { state with
    records := state.records.mapRows
      (fun item =>
        if item.credentialId = credentialId && item.status = .valid then
          item.invalidate now reason
        else item)
      (by intro item; split <;> rfl)
    permissions := state.permissions.mapRows
      (fun permission =>
        if permission.keyHash ∈ state.replacedKeyHashes credentialId then permission.invalidate
        else permission)
      (by intro permission; split <;> rfl) }

def replaceCredential (record : KeyRecord) (capabilityHashes : List Sha256Digest)
    (now : Instant) (reason : String) : KernelState :=
  (state.invalidateCredential record.credentialId now reason).put record capabilityHashes now

def invalidate (existing : KeyRecord) (now : Instant) (reason : String) : KernelState :=
  { state with
    records := state.records.set (existing.invalidate now reason)
    permissions := state.permissions.mapRows
      (fun permission =>
        if permission.keyHash = existing.keyHash then permission.invalidate else permission)
      (by intro permission; split <;> rfl) }

end KernelState

inductive StoreOp
  | put (record : KeyRecord) (capabilityHashes : List Sha256Digest)
  | replaceCredential (record : KeyRecord) (capabilityHashes : List Sha256Digest)
      (reason : String)
  | invalidate (keyHash : Sha256Digest) (reason : String)
  | rotateRuntimeLookupKey (randomKey : LookupKey)

/-- What an operation saves; `none` when it returns or throws without saving. -/
def StoreOp.apply (state : KernelState) (now : Instant) :
    StoreOp → Option (KernelState × KernelAction)
  | .put record capabilityHashes =>
    some (state.put record capabilityHashes now,
      .put record.keyHash capabilityHashes.length)
  | .replaceCredential record capabilityHashes reason =>
    some (state.replaceCredential record capabilityHashes now reason,
      .replaceCredential record.credentialId record.keyHash
        (state.replacedKeyHashes record.credentialId).length capabilityHashes.length)
  | .invalidate keyHash reason =>
    (state.records.find? keyHash).map fun existing =>
      (state.invalidate existing now reason, .invalidate keyHash (toText reason))
  | .rotateRuntimeLookupKey randomKey =>
    if state.records.rows.isEmpty && state.permissions.rows.isEmpty then
      some ({ state with runtimeLookupKey := randomKey }, .rotateRuntimeLookupKey)
    else none

/-- The state `save` seals and writes. -/
def KernelState.saved (state : KernelState) (eventId : String) (now : Instant)
    (action : KernelAction) : KernelState :=
  normalizeKernelState
    { normalizeKernelState state with
      epoch := (normalizeKernelState state).epoch + 1
      updatedAt := some now
      events := lastEvents ((normalizeKernelState state).events ++ [⟨eventId, now, action⟩]) }

namespace KernelState

variable (state : KernelState)

def get (keyHash : Sha256Digest) : Option KeyRecord := state.records.find? keyHash

def hasCapability (keyHash : Sha256Digest) (capabilityHashes : List Sha256Digest) : Bool :=
  capabilityHashes.isEmpty || state.permissions.rows.any fun permission =>
      permission.keyHash = keyHash && permission.status = .valid &&
        permission.capabilityHash ∈ capabilityHashes

def list (includeInvalid : Bool) : List KeyRecord :=
  if includeInvalid then state.records.rows
  else state.records.rows.filter fun record => record.status = .valid

end KernelState

end LicoMesh.CapabilityKernel

import LicoMesh.CapabilityKernel.Mutations

namespace LicoMesh.CapabilityKernel

open StoreOp

open Library WorkQueue

variable {outcome : WriteOutcome} {key : Sha256Digest × Sha256Digest} {issued record : KeyRecord}
  {op : StoreOp} {now : Instant} {action : KernelAction} {changed : KernelState}

namespace KernelState

variable {persisted hot state : KernelState} {keyHash : Sha256Digest}

theorem hasRecord_of_merge (merged : (mergeKernelStates persisted hot).HasRecord keyHash) :
    persisted.HasRecord keyHash ∨ hot.HasRecord keyHash := by
  obtain ⟨record, found⟩ := merged
  obtain present | ⟨-, ⟨-, present⟩ | ⟨current, next, present, -⟩⟩ := find?_mergeKernelStates found
  · exact .inl ⟨record, present⟩
  · exact .inr ⟨record, present⟩
  · exact .inl ⟨current, present⟩

def CredentialsIn (state other : KernelState) : Prop :=
  ∀ keyHash record, state.records.find? keyHash = some record →
    ∃ current, other.records.find? keyHash = some current ∧
      current.credentialId = record.credentialId

theorem CredentialsIn.trans (first : state.CredentialsIn middle)
    (second : middle.CredentialsIn other) : state.CredentialsIn other := by
  intro keyHash record found
  obtain ⟨current, present, credential⟩ := first keyHash record found
  obtain ⟨next, present', credential'⟩ := second keyHash current present
  exact ⟨next, present', credential'.trans credential⟩

theorem CredentialsIn.refl (state : KernelState) : state.CredentialsIn state :=
  fun _ record found => ⟨record, found, rfl⟩

theorem exists_of_merge (known : hot.CredentialsIn persisted)
    (found : (mergeKernelStates persisted hot).records.find? keyHash = some record) : ∃ current,
      persisted.records.find? keyHash = some current ∧ current.credentialId = record.credentialId ∧
      (record.status = .valid → current.status = .valid) := by
  obtain present | ⟨-, ⟨absent, present⟩ | ⟨current, next, present, present', rfl⟩⟩ :=
    find?_mergeKernelStates found
  · exact ⟨record, present, rfl, fun valid => valid⟩
  · obtain ⟨current, present', -⟩ := known keyHash record present
    rw [absent] at present'
    cases present'
  · refine ⟨current, present, ?_, ?_⟩
    · obtain left | right := mergeKeyRecord_asIssued current next
      · exact (KeyRecord.credentialId_of_asIssued left).symm
      · obtain ⟨current', same, credential⟩ := known keyHash next present'
        obtain rfl : current = current' := by simpa [present] using same
        exact credential.trans (KeyRecord.credentialId_of_asIssued right).symm
    · intro valid
      by_contra notValid
      have invalid := (mergeKeyRecord_status current next).mpr
        (.inl (CapabilityStatus.ne_valid_iff.mp notValid))
      rw [valid] at invalid
      cases invalid

def OneValid (state : KernelState) : Prop :=
  ∀ keyHash keyHash' record record', state.records.find? keyHash = some record →
    state.records.find? keyHash' = some record' → record.status = .valid →
    record'.status = .valid → record.credentialId = record'.credentialId → keyHash = keyHash'

theorem OneValid.merge (one : persisted.OneValid) (known : hot.CredentialsIn persisted) :
    (mergeKernelStates persisted hot).OneValid := by
  intro keyHash keyHash' record record' found found' valid valid' same
  obtain ⟨current, present, credential, keeps⟩ := exists_of_merge known found
  obtain ⟨current', present', credential', keeps'⟩ := exists_of_merge known found'
  exact one keyHash keyHash' current current' present present' (keeps valid) (keeps' valid')
    (by rw [credential, same, credential'])

theorem OneValid.apply (one : state.OneValid)
    (replaces : ∀ record capabilityHashes, op ≠ .put record capabilityHashes)
    (applied : op.apply state now = some (changed, action)) : changed.OneValid := by
  intro keyHash keyHash' record record' found found' valid valid' same
  have source : ∀ {keyHash record}, changed.records.find? keyHash = some record →
      record.status = .valid →
      (op.issued = some record ∧ record.keyHash = keyHash) ∨
        state.records.find? keyHash = some record := by
    intro keyHash record found valid
    obtain issued | unchanged | ⟨existing, reason, -, rfl⟩ := find?_apply applied found
    · exact .inl issued
    · exact .inr unchanged
    · cases valid
  have alone : ∀ {keyHash record other}, op.issued = some record →
      changed.records.find? keyHash = some other → other.status = .valid →
      other.credentialId = record.credentialId → keyHash = record.keyHash := by
    intro keyHash record other issued found valid same
    cases op with
    | put record capabilityHashes => exact absurd rfl (replaces record capabilityHashes)
    | replaceCredential record' capabilityHashes reason =>
      cases issued
      by_contra different
      have invalid := apply_replaceCredential applied found same different
      rw [valid] at invalid
      cases invalid
    | invalidate target reason => cases issued
    | rotateRuntimeLookupKey randomKey => cases issued
  obtain ⟨issued, rfl⟩ | unchanged := source found valid
  · exact (alone issued found' valid' same.symm).symm
  · obtain ⟨issued', rfl⟩ | unchanged' := source found' valid'
    · exact alone issued' found valid same
    · exact one keyHash keyHash' record record' unchanged unchanged' valid valid' same

end KernelState

def Event.Issues (event : Event) (keyHash : Sha256Digest) : Prop :=
  ∃ id op now eventId outcome, event = .mutate id op now eventId outcome ∧ op.Issues keyHash

namespace Config

variable {config : Config} {event : Event} {keyHash : Sha256Digest} {id : InstanceId}

/-- The stores share one lookup key, every write succeeds, and `put` issues new key hashes. -/
def Shares (config : Config) : Event → Prop
  | .mutate _ op _ _ outcome =>
    outcome = .written ∧ (∀ randomKey, op ≠ .rotateRuntimeLookupKey randomKey) ∧
      ∀ record capabilityHashes, op = .put record capabilityHashes →
        ¬config.file.HasRecord record.keyHash
  | _ => True

theorem Shares.file_of_applied (shares : config.Shares (.mutate id op now eventId outcome))
    (applied : op.apply (config.reloaded id) now = some (changed, action)) :
    (config.step (.mutate id op now eventId outcome)).file = changed.saved eventId now action := by
  obtain rfl : outcome = .written := shares.1
  exact file_of_applied applied

theorem hasRecord_step (present : config.file.HasRecord keyHash) :
    (config.step event).file.HasRecord keyHash := by
  obtain same | ⟨id, op, now, eventId, outcome, changed, action, -, -, applied, saved⟩ :=
    config.file_of_step event
  · rw [same]
    exact present
  · have reloaded : (config.reloaded id).HasRecord keyHash := by
      obtain same | ⟨hot, -, same⟩ := config.reloaded_cases id
      · rw [same]
        exact present
      · rw [same]
        exact .merge present
    have changedHas : changed.HasRecord keyHash := hasRecord_apply applied reloaded
    rw [saved]
    exact changedHas

theorem revoked_reloaded (revoked : config.file.Revoked keyHash) (id : InstanceId) :
    (config.reloaded id).Revoked keyHash := by
  obtain same | ⟨hot, -, same⟩ := config.reloaded_cases id
  · rw [same]
    exact revoked
  · rw [same]
    exact .merge revoked

theorem revoked_step (revoked : config.file.Revoked keyHash) (kept : ¬event.Issues keyHash) :
    (config.step event).file.Revoked keyHash := by
  obtain same | ⟨id, op, now, eventId, outcome, changed, action, rfl, -, applied, saved⟩ :=
    config.file_of_step event
  · rw [same]
    exact revoked
  · have still : changed.Revoked keyHash := revoked_apply applied
      (fun issues => kept ⟨id, op, now, eventId, outcome, rfl, issues⟩) (revoked_reloaded revoked id)
    rw [saved]
    exact still

theorem permissionRevoked_step (revoked : config.file.PermissionRevoked key)
    (kept : ¬event.Issues key.1) : (config.step event).file.PermissionRevoked key := by
  obtain same | ⟨id, op, now, eventId, outcome, changed, action, rfl, -, applied, saved⟩ :=
    config.file_of_step event
  · rw [same]
    exact revoked
  · have reloaded : (config.reloaded id).PermissionRevoked key := by
      obtain same | ⟨hot, -, same⟩ := config.reloaded_cases id
      · rw [same]
        exact revoked
      · rw [same]
        exact .merge revoked
    have still : changed.PermissionRevoked key := permissionRevoked_apply applied
      (fun issues => kept ⟨id, op, now, eventId, outcome, rfl, issues⟩) reloaded
    rw [saved]
    exact still

def Behind (config : Config) : Prop :=
  ∀ state keyHash, config.InPlay state → state.HasRecord keyHash → config.file.HasRecord keyHash

theorem Behind.reloaded (behind : config.Behind)
    (present : (config.reloaded id).HasRecord keyHash) : config.file.HasRecord keyHash := by
  obtain same | ⟨hot, inPlay, same⟩ := config.reloaded_cases id
  · rw [same] at present
    exact present
  · rw [same] at present
    obtain file | loaded := KernelState.hasRecord_of_merge present
    · exact file
    · exact behind hot keyHash inPlay loaded

theorem Behind.step (behind : config.Behind) (shares : config.Shares event) :
    (config.step event).Behind := by
  intro state keyHash inPlay present
  obtain before | file | ⟨id, op, now, eventId, outcome, rfl, unsaved | saved⟩ :=
    config.inPlay_of_step inPlay
  · exact hasRecord_step (behind state keyHash before present)
  · rw [file] at present
    exact hasRecord_step present
  · obtain ⟨-, rfl⟩ := unsaved
    exact hasRecord_step (behind.reloaded present)
  · obtain ⟨changed, action, applied, rfl⟩ := saved
    rw [shares.file_of_applied applied]
    exact present

def IssuedAs (keyHash : Sha256Digest) (issued : KeyRecord) (config : Config) : Prop :=
  ∀ state record, state = config.file ∨ config.InPlay state →
    state.records.find? keyHash = some record → record.asIssued = issued

theorem IssuedAs.reloaded (issuedAs : config.IssuedAs keyHash issued)
    (found : (config.reloaded id).records.find? keyHash = some record) :
    record.asIssued = issued := by
  obtain same | ⟨hot, inPlay, same⟩ := config.reloaded_cases id
  · rw [same] at found
    exact issuedAs config.file record (.inl rfl) found
  · rw [same] at found
    obtain present | ⟨-, ⟨-, present⟩ | ⟨current, next, present, present', rfl⟩⟩ :=
      find?_mergeKernelStates found
    · exact issuedAs config.file record (.inl rfl) present
    · exact issuedAs hot record (.inr inPlay) present
    · obtain left | right := mergeKeyRecord_asIssued current next
      · exact left.trans (issuedAs config.file current (.inl rfl) present)
      · exact right.trans (issuedAs hot next (.inr inPlay) present')

theorem IssuedAs.step (issuedAs : config.IssuedAs keyHash issued)
    (kept : ¬event.Issues keyHash) : (config.step event).IssuedAs keyHash issued := by
  have saved : ∀ {id op now eventId outcome changed action} {record : KeyRecord},
      event = .mutate id op now eventId outcome →
      op.apply (config.reloaded id) now = some (changed, action) →
      changed.records.find? keyHash = some record → record.asIssued = issued := by
    intro id op now eventId outcome changed action record same applied found
    obtain issues | unchanged | ⟨existing, reason, present, rfl⟩ := find?_apply applied found
    · exact absurd ⟨id, op, now, eventId, outcome, same, record, issues⟩ kept
    · exact issuedAs.reloaded unchanged
    · have before : existing.asIssued = issued := issuedAs.reloaded present
      exact before
  intro state record held found
  obtain rfl | inPlay := held
  · obtain same | ⟨id, op, now, eventId, outcome, changed, action, rfl, -, applied, file⟩ :=
      config.file_of_step event
    · rw [same] at found
      exact issuedAs config.file record (.inl rfl) found
    · rw [file] at found
      exact saved rfl applied found
  · obtain before | file | ⟨id, op, now, eventId, outcome, rfl, unsaved | ⟨_, _, applied, rfl⟩⟩ :=
      config.inPlay_of_step inPlay
    · exact issuedAs state record (.inr before) found
    · rw [file] at found
      exact issuedAs config.file record (.inl rfl) found
    · obtain ⟨-, rfl⟩ := unsaved
      exact issuedAs.reloaded found
    · exact saved rfl applied found

def Replaces (config : Config) : Event → Prop
  | .mutate _ op _ _ _ =>
    (∀ record capabilityHashes, op ≠ .put record capabilityHashes) ∧
      ∀ record current, op.issued = some record →
        config.file.records.find? record.keyHash = some current →
          current.credentialId = record.credentialId
  | _ => True

structure OneEach (config : Config) : Prop where
  one : config.file.OneValid
  known : ∀ state, config.InPlay state → state.CredentialsIn config.file

theorem OneEach.reloaded (each : config.OneEach) (id : InstanceId) :
    (config.reloaded id).OneValid ∧ (config.reloaded id).CredentialsIn config.file ∧
      config.file.CredentialsIn (config.reloaded id) := by
  obtain same | ⟨hot, inPlay, same⟩ := config.reloaded_cases id
  · rw [same]
    exact ⟨each.one, .refl config.file, .refl config.file⟩
  · have known : hot.CredentialsIn (normalizeKernelState config.file) := each.known hot inPlay
    have older : (mergeKernelStates (normalizeKernelState config.file) hot).CredentialsIn
        (normalizeKernelState config.file) := by
      intro keyHash record found
      obtain ⟨current, present, credential, -⟩ := KernelState.exists_of_merge known found
      exact ⟨current, present, credential⟩
    rw [same]
    refine ⟨.merge each.one known, older, ?_⟩
    intro keyHash record found
    have held : (normalizeKernelState config.file).HasRecord keyHash := ⟨record, found⟩
    obtain ⟨merged, present⟩ : (mergeKernelStates (normalizeKernelState config.file)
        hot).HasRecord keyHash := held.merge
    obtain ⟨current, found', credential⟩ := older keyHash merged present
    obtain rfl : record = current := by simpa [found] using found'
    exact ⟨merged, present, credential.symm⟩

theorem OneEach.credentials_apply (each : config.OneEach)
    (kept : ∀ record current, op.issued = some record →
      config.file.records.find? record.keyHash = some current →
        current.credentialId = record.credentialId)
    (applied : op.apply (config.reloaded id) now = some (changed, action)) :
    (config.reloaded id).CredentialsIn changed ∧ config.file.CredentialsIn changed := by
  obtain ⟨-, older, newer⟩ := each.reloaded id
  have still : (config.reloaded id).CredentialsIn changed := by
    intro keyHash record found
    obtain ⟨next, present⟩ := hasRecord_apply applied ⟨record, found⟩
    refine ⟨next, present, ?_⟩
    obtain ⟨current, found', credential⟩ := older keyHash record found
    obtain ⟨issued, rfl⟩ | unchanged | ⟨existing, reason, present', rfl⟩ :=
      find?_apply applied present
    · exact (kept next current issued found').symm.trans credential
    · obtain rfl : record = next := by simpa [found] using unchanged
      rfl
    · obtain rfl : record = existing := by simpa [found] using present'
      rfl
  refine ⟨still, ?_⟩
  intro keyHash record found
  obtain ⟨merged, present, credential⟩ := newer keyHash record found
  obtain ⟨next, present', credential'⟩ := still keyHash merged present
  exact ⟨next, present', credential'.trans credential⟩

theorem OneEach.step (each : config.OneEach) (shares : config.Shares event)
    (replaces : config.Replaces event) : (config.step event).OneEach := by
  have newer : config.file.CredentialsIn (config.step event).file := by
    obtain same | ⟨id, op, now, eventId, outcome, changed, action, rfl, -, applied, saved⟩ :=
      config.file_of_step event
    · rw [same]
      exact .refl config.file
    · have kept : config.file.CredentialsIn changed :=
        (each.credentials_apply replaces.2 applied).2
      rw [saved]
      exact kept
  constructor
  · obtain same | ⟨id, op, now, eventId, outcome, changed, action, rfl, -, applied, saved⟩ :=
      config.file_of_step event
    · rw [same]
      exact each.one
    · have one : changed.OneValid := (each.reloaded id).1.apply replaces.1 applied
      rw [saved]
      exact one
  · intro state inPlay
    obtain before | file | ⟨id, op, now, eventId, outcome, rfl, unsaved | saved⟩ :=
      config.inPlay_of_step inPlay
    · exact (each.known state before).trans newer
    · rw [file]
      exact newer
    · obtain ⟨-, rfl⟩ := unsaved
      exact (each.reloaded id).2.1.trans newer
    · obtain ⟨changed, action, applied, rfl⟩ := saved
      rw [shares.file_of_applied applied]
      exact .refl _

theorem behind_start (file : KernelState) : (start file).Behind := by
  rintro state keyHash ⟨id, held | held⟩ _ <;> cases held

theorem oneEach_start {file : KernelState} (one : file.OneValid) : (start file).OneEach where
  one := one
  known := by
    rintro state ⟨id, held | held⟩ <;> cases held

/-- What a mutation between `met` and `next` leaves in the file at `last`, after `later`. -/
structure Kept (met next last : Config) (id : InstanceId) (op : StoreOp) (later : List Event) :
    Prop where
  put : ∀ record capabilityHashes, op = .put record capabilityHashes →
    ∃ kept, last.file.records.find? record.keyHash = some kept ∧
      ((∀ event ∈ later, ¬event.Issues record.keyHash) → kept.asIssued = record.asIssued)
  invalidate : ∀ keyHash reason, op = .invalidate keyHash reason →
    (met.reloaded id).HasRecord keyHash → next.file.KeyRevoked keyHash
  replaced : ∀ record capabilityHashes reason,
    op = .replaceCredential record capabilityHashes reason →
      ∀ keyHash ∈ (met.reloaded id).replacedKeyHashes record.credentialId,
        keyHash ≠ record.keyHash → next.file.KeyRevoked keyHash
  revoked : ∀ keyHash, (∀ event ∈ later, ¬event.Issues keyHash) →
    next.file.Revoked keyHash → last.file.Revoked keyHash
  permissionRevoked : ∀ key, (∀ event ∈ later, ¬event.Issues key.1) →
    next.file.PermissionRevoked key → last.file.PermissionRevoked key

theorem revoked_run (later : List Event) (kept : ∀ event ∈ later, ¬event.Issues keyHash)
    (revoked : config.file.Revoked keyHash) : (config.run later).file.Revoked keyHash := by
  induction later generalizing config with
  | nil => exact revoked
  | cons event rest induction =>
    exact induction (fun event member => kept event (List.mem_cons_of_mem _ member))
      (revoked_step revoked (kept event List.mem_cons_self))

theorem permissionRevoked_run (later : List Event) (kept : ∀ event ∈ later, ¬event.Issues key.1)
    (revoked : config.file.PermissionRevoked key) :
    (config.run later).file.PermissionRevoked key := by
  induction later generalizing config with
  | nil => exact revoked
  | cons event rest induction =>
    exact induction (fun event member => kept event (List.mem_cons_of_mem _ member))
      (permissionRevoked_step revoked (kept event List.mem_cons_self))

theorem issuedAs_run (later : List Event) (kept : ∀ event ∈ later, ¬event.Issues keyHash)
    (issuedAs : config.IssuedAs keyHash issued) : (config.run later).IssuedAs keyHash issued := by
  induction later generalizing config with
  | nil => exact issuedAs
  | cons event rest induction =>
    exact induction (fun event member => kept event (List.mem_cons_of_mem _ member))
      (issuedAs.step (kept event List.mem_cons_self))

theorem oneEach_run (events : List Event) (shares : EachCommand step Shares config events)
    (replaces : EachCommand step Replaces config events) (each : config.OneEach) :
    (config.run events).OneEach := by
  induction events generalizing config with
  | nil => exact each
  | cons event rest induction =>
    exact induction shares.2 replaces.2 (each.step shares.1 replaces.1)

/-- A `put` of a key that no state in play knows is the only issue of it around. -/
theorem Behind.issuedAs_put (behind : config.Behind) {capabilityHashes : List Sha256Digest}
    (shares : config.Shares (.mutate id (.put record capabilityHashes) now eventId outcome)) :
    (config.step (.mutate id (.put record capabilityHashes) now eventId outcome)).IssuedAs
      record.keyHash record.asIssued := by
  have fresh : ¬config.file.HasRecord record.keyHash := shares.2.2 record capabilityHashes rfl
  have put : ∀ {other : KeyRecord}, ((config.reloaded id).put record capabilityHashes
      now).records.find? record.keyHash = some other → other.asIssued = record.asIssued := by
    intro other found
    rw [KernelState.find?_put, if_pos rfl] at found
    cases found
    rfl
  intro state other held found
  obtain rfl | inPlay := held
  · rw [shares.file_of_applied rfl] at found
    exact put found
  · obtain before | file | ⟨id', op, now', eventId', outcome', same, unsaved | saved⟩ :=
      config.inPlay_of_step inPlay
    · exact absurd (behind state record.keyHash before ⟨other, found⟩) fresh
    · rw [file] at found
      exact absurd ⟨other, found⟩ fresh
    · cases same
      cases unsaved.1
    · cases same
      obtain ⟨changed, action, applied, rfl⟩ := saved
      cases applied
      exact put found

end Config

open Config

def sampleDigest (byte : UInt8) : Sha256Digest := ⟨List.replicate 32 byte, rfl⟩

def sampleFile : KernelState := createEmptyKernelState "lookup-key" 0

def sampleRecord (keyHash : UInt8) (credentialId : String) (issuedAt : Instant) : KeyRecord where
  keyHash := sampleDigest keyHash
  credentialId := credentialId
  status := .valid
  issuedAt := some issuedAt
  expiresAt := none
  createdAt := some issuedAt
  updatedAt := some issuedAt

def replaceEvent (id : InstanceId) (keyHash : UInt8) (credentialId : String) (now : Instant) :
    Event :=
  .mutate id (.replaceCredential (sampleRecord keyHash credentialId now) [sampleDigest 9]
    "credential_replaced") now "cap_event" .written

variable {config : Config} {id : InstanceId}

theorem replaces_replaceEvent
    (fresh : (config.file.records.find? (sampleDigest keyHash)).isNone = true) :
    config.Replaces (replaceEvent id keyHash credentialId now) := by
  refine ⟨fun _ _ same => StoreOp.noConfusion same, ?_⟩
  intro record current issued found
  cases issued
  have unknown : config.file.records.find? (sampleDigest keyHash) = none := by simpa using fresh
  rw [show (sampleRecord keyHash credentialId now).keyHash = sampleDigest keyHash from rfl,
    unknown] at found
  cases found

theorem shares_replaceEvent : config.Shares (replaceEvent id keyHash credentialId now) :=
  ⟨rfl, fun _ same => StoreOp.noConfusion same, fun _ _ same => StoreOp.noConfusion same⟩

end LicoMesh.CapabilityKernel

import LicoMesh.CapabilityKernel.State
import LicoMesh.Library.Path
import LicoMesh.PrivateFile

namespace LicoMesh.CapabilityKernel

open Library WorkQueue

/-! Sealed kernel stores over one file. A mutation holds the file lock from its reload to its
write, and a store's reads wait for its mutations, so a mutation is one step. What a reload merges
into the memory of a store is what the file has. -/

section Stores

variable {id other : InstanceId} {state : KernelState}

abbrev InstanceId := Nat

/-- One store: the state it has loaded, and what an unfinished load has read. -/
structure Instance where
  state : Option KernelState := none
  reading : Option KernelState := none

structure Config where
  file : KernelState
  instances : InstanceId → Instance

def Config.start (file : KernelState) : Config where
  file := file
  instances := fun _ => {}

inductive Event
  | read (id : InstanceId)
  | load (id : InstanceId)
  | loadRuntimeLookupKey (id : InstanceId)
  | mutate (id : InstanceId) (op : StoreOp) (now : Instant) (eventId : String)
      (outcome : WriteOutcome)

def Instance.reloaded (file : KernelState) (store : Instance) : KernelState :=
  match store.state with
  | some hotState => mergeKernelStates (normalizeKernelState file) hotState
  | none => normalizeKernelState file

namespace Config

variable (config : Config)

def setInstance (id : InstanceId) (store : Instance) : Config :=
  { config with instances := Function.update config.instances id store }

def reloaded (id : InstanceId) : KernelState := (config.instances id).reloaded config.file

/-- `enqueueMutation` around an operation and its `save`. -/
def mutate (id : InstanceId) (op : StoreOp) (now : Instant) (eventId : String)
    (outcome : WriteOutcome) : Config :=
  match op.apply (config.reloaded id) now with
  | none => config.setInstance id { state := some (config.reloaded id) }
  | some (changed, action) =>
    { config.setInstance id { state := some (changed.saved eventId now action) } with
      file := if outcome.renames then changed.saved eventId now action else config.file }

def step : Event → Config
  | .read id =>
    match (config.instances id).state, (config.instances id).reading with
    | none, none =>
      config.setInstance id { reading := some (normalizeKernelState config.file) }
    | _, _ => config
  | .load id =>
    match (config.instances id).reading with
    | some loaded => config.setInstance id { state := some loaded }
    | none => config
  | .loadRuntimeLookupKey id =>
    match (config.instances id).state with
    -- a store that has not loaded reads the file under its lock
    | none => config.setInstance id { state := some (normalizeKernelState config.file) }
    | some _ => config
  | .mutate id op now eventId outcome => config.mutate id op now eventId outcome

abbrev run (events : List Event) : Config := runAll step config events

def visible (id : InstanceId) : KernelState :=
  let store := config.instances id
  store.state.getD (store.reading.getD (normalizeKernelState config.file))

@[simp] theorem instances_setInstance (id : InstanceId) (store : Instance) :
    (config.setInstance id store).instances id = store :=
  Function.update_self ..

theorem instances_setInstance_ne (different : other ≠ id) (store : Instance) :
    (config.setInstance id store).instances other = config.instances other :=
  Function.update_of_ne different ..

theorem instances_mutate_ne (different : other ≠ id) :
    (config.mutate id op now eventId outcome).instances other = config.instances other := by
  unfold mutate
  split
  · exact config.instances_setInstance_ne different _
  · exact config.instances_setInstance_ne different _

section Applied

variable {config : Config} {id : InstanceId} {op : StoreOp} {now : Instant} {eventId : String}
  {outcome : WriteOutcome} {changed : KernelState} {action : KernelAction}
  (applied : op.apply (config.reloaded id) now = some (changed, action))
include applied

theorem file_of_applied : (config.step (.mutate id op now eventId outcome)).file =
      if outcome.renames then changed.saved eventId now action else config.file := by
  simp [step, mutate, applied]

theorem instances_of_applied : (config.step (.mutate id op now eventId outcome)).instances id =
      { state := some (changed.saved eventId now action) } := by
  simp [step, mutate, applied, setInstance]

end Applied

def InPlay (state : KernelState) : Prop :=
  ∃ id, (config.instances id).state = some state ∨ (config.instances id).reading = some state

theorem file_of_step (event : Event) : (config.step event).file = config.file ∨
      ∃ id op now eventId outcome changed action,
        event = .mutate id op now eventId outcome ∧ outcome.renames = true ∧
          op.apply (config.reloaded id) now = some (changed, action) ∧
          (config.step event).file = changed.saved eventId now action := by
  cases event with
  | read id =>
    simp only [step]
    split <;> exact .inl rfl
  | load id =>
    simp only [step]
    split <;> exact .inl rfl
  | loadRuntimeLookupKey id =>
    simp only [step]
    split <;> exact .inl rfl
  | mutate id op now eventId outcome =>
    simp only [step, mutate]
    cases applied : op.apply (config.reloaded id) now with
    | none => exact .inl rfl
    | some result =>
      obtain ⟨changed, action⟩ := result
      by_cases renames : outcome.renames = true
      · exact .inr ⟨id, op, now, eventId, outcome, changed, action, rfl, renames, applied,
          by simp [renames]⟩
      · exact .inl (by simp [renames])

theorem inPlay_setInstance (inPlay : (config.setInstance id store).InPlay state) :
    config.InPlay state ∨ store.state = some state ∨ store.reading = some state := by
  obtain ⟨other, held⟩ := inPlay
  by_cases same : other = id
  · subst same
    rw [instances_setInstance] at held
    exact .inr held
  · rw [instances_setInstance_ne _ same] at held
    exact .inl ⟨other, held⟩

theorem inPlay_of_step (inPlay : (config.step event).InPlay state) :
    config.InPlay state ∨ state = normalizeKernelState config.file ∨
      ∃ id op now eventId outcome, event = .mutate id op now eventId outcome ∧
        (op.apply (config.reloaded id) now = none ∧ state = config.reloaded id ∨
          ∃ changed action, op.apply (config.reloaded id) now = some (changed, action) ∧
            state = changed.saved eventId now action) := by
  cases event with
  | read id =>
    simp only [step] at inPlay
    split at inPlay
    · obtain before | held | held := config.inPlay_setInstance inPlay
      · exact .inl before
      · cases held
      · exact .inr (.inl (Option.some.inj held).symm)
    · exact .inl inPlay
  | load id =>
    simp only [step] at inPlay
    split at inPlay
    · rename_i loaded reading
      obtain before | held | held := config.inPlay_setInstance inPlay
      · exact .inl before
      · obtain rfl : loaded = state := Option.some.inj held
        exact .inl ⟨id, .inr reading⟩
      · cases held
    · exact .inl inPlay
  | loadRuntimeLookupKey id =>
    simp only [step] at inPlay
    split at inPlay
    · obtain before | held | held := config.inPlay_setInstance inPlay
      · exact .inl before
      · exact .inr (.inl (Option.some.inj held).symm)
      · cases held
    · exact .inl inPlay
  | mutate id op now eventId outcome =>
    simp only [step, mutate] at inPlay
    cases applied : op.apply (config.reloaded id) now with
    | none =>
      rw [applied] at inPlay
      obtain before | held | held := config.inPlay_setInstance inPlay
      · exact .inl before
      · exact .inr (.inr ⟨id, op, now, eventId, outcome, rfl,
          .inl ⟨applied, (Option.some.inj held).symm⟩⟩)
      · cases held
    | some result =>
      obtain ⟨changed, action⟩ := result
      rw [applied] at inPlay
      have inPlay' : (config.setInstance id
          { state := some (changed.saved eventId now action) }).InPlay state := inPlay
      obtain before | held | held := config.inPlay_setInstance inPlay'
      · exact .inl before
      · exact .inr (.inr ⟨id, op, now, eventId, outcome, rfl,
          .inr ⟨changed, action, applied, (Option.some.inj held).symm⟩⟩)
      · cases held

theorem reloaded_cases (id : InstanceId) : config.reloaded id = normalizeKernelState config.file ∨
      ∃ hot, config.InPlay hot ∧
        config.reloaded id = mergeKernelStates (normalizeKernelState config.file) hot := by
  unfold reloaded Instance.reloaded
  cases held : (config.instances id).state with
  | none => exact .inl rfl
  | some hot => exact .inr ⟨hot, ⟨id, .inl held⟩, rfl⟩

end Config

end Stores

variable {persisted hot : KernelState} {record : KeyRecord}

def KeyRecord.asIssued (record : KeyRecord) : KeyRecord :=
  { record with
    status := .valid
    invalidatedAt := none
    invalidationReason := ""
    createdAt := none
    updatedAt := none }

theorem KeyRecord.credentialId_of_asIssued {other : KeyRecord}
    (same : record.asIssued = other.asIssued) : record.credentialId = other.credentialId := by
  change record.asIssued.credentialId = other.asIssued.credentialId
  rw [same]

theorem CapabilityStatus.ne_valid_iff {status : CapabilityStatus} :
    status ≠ .valid ↔ status = .invalid := by
  cases status <;> simp

theorem mergeKeyRecord_status (current next : KeyRecord) :
    (mergeKeyRecord.join current next).status = .invalid ↔
      current.status = .invalid ∨ next.status = .invalid := by
  cases hcurrent : current.status <;> cases hnext : next.status <;>
    simp [mergeKeyRecord, hcurrent, hnext]
  split <;> simp [hcurrent, hnext]

theorem mergeKeyRecord_asIssued (current next : KeyRecord) :
    (mergeKeyRecord.join current next).asIssued = current.asIssued ∨
      (mergeKeyRecord.join current next).asIssued = next.asIssued := by
  by_cases valid : (current.status = .valid && next.status = .valid) = true
  · simp only [mergeKeyRecord, valid, if_true]
    split
    · exact .inr rfl
    · exact .inl rfl
  · simp only [mergeKeyRecord, valid]
    by_cases hcurrent : current.status = .valid
    · exact .inr (by simp [hcurrent, KeyRecord.asIssued])
    · exact .inl (by simp [hcurrent, KeyRecord.asIssued])

theorem mergePermissionRecord_status (existing candidate : PermissionRecord) :
    (mergePermissionRecord.join existing candidate).status = .invalid ↔
      existing.status = .invalid ∨ candidate.status = .invalid := by
  cases hexisting : existing.status <;> cases hcandidate : candidate.status <;>
    simp [mergePermissionRecord, hexisting, hcandidate]

@[simp] theorem records_normalizeKernelState (state : KernelState) :
    (normalizeKernelState state).records = state.records := rfl

@[simp] theorem permissions_normalizeKernelState (state : KernelState) :
    (normalizeKernelState state).permissions = state.permissions := rfl

@[simp] theorem runtimeLookupKey_normalizeKernelState (state : KernelState) :
    (normalizeKernelState state).runtimeLookupKey = state.runtimeLookupKey := rfl

theorem mergeKernelStates_of_ne (different : persisted.runtimeLookupKey ≠ hot.runtimeLookupKey) :
    mergeKernelStates persisted hot = normalizeKernelState persisted := by
  simp [mergeKernelStates, different]

variable (same : persisted.runtimeLookupKey = hot.runtimeLookupKey)
include same

theorem records_mergeKernelStates : (mergeKernelStates persisted hot).records =
      persisted.records.merge mergeKeyRecord hot.records := by
  simp [mergeKernelStates, same]

theorem permissions_mergeKernelStates : (mergeKernelStates persisted hot).permissions =
      persisted.permissions.merge mergePermissionRecord hot.permissions := by
  simp [mergeKernelStates, same]

omit same

theorem find?_mergeKernelStates (found : (mergeKernelStates persisted hot).records.find? keyHash =
      some record) : persisted.records.find? keyHash = some record ∨
      persisted.runtimeLookupKey = hot.runtimeLookupKey ∧
        (persisted.records.find? keyHash = none ∧ hot.records.find? keyHash = some record ∨
          ∃ current next, persisted.records.find? keyHash = some current ∧
            hot.records.find? keyHash = some next ∧
            record = mergeKeyRecord.join current next) := by
  by_cases same : persisted.runtimeLookupKey = hot.runtimeLookupKey
  · rw [records_mergeKernelStates same, Table.find?_merge] at found
    cases current : persisted.records.find? keyHash with
    | none =>
      rw [current] at found
      exact .inr ⟨same, .inl ⟨rfl, found⟩⟩
    | some row =>
      rw [current] at found
      cases next : hot.records.find? keyHash with
      | none =>
        rw [next] at found
        exact .inl found
      | some other =>
        rw [next] at found
        exact .inr ⟨same, .inr ⟨row, other, rfl, rfl, (Option.some.inj found).symm⟩⟩
  · rw [mergeKernelStates_of_ne same] at found
    exact .inl found

namespace KernelState

def HasRecord (keyHash : Sha256Digest) (state : KernelState) : Prop :=
  ∃ record, state.records.find? keyHash = some record

def Revoked (keyHash : Sha256Digest) (state : KernelState) : Prop :=
  ∃ record, state.records.find? keyHash = some record ∧ record.status = .invalid

def PermissionRevoked (key : Sha256Digest × Sha256Digest) (state : KernelState) : Prop :=
  ∃ permission, state.permissions.find? key = some permission ∧ permission.status = .invalid

def KeyRevoked (keyHash : Sha256Digest) (state : KernelState) : Prop :=
  state.Revoked keyHash ∧ ∀ key permission, key.1 = keyHash →
    state.permissions.find? key = some permission → permission.status = .invalid

variable {persisted hot : KernelState} {keyHash : Sha256Digest}

theorem HasRecord.merge (present : persisted.HasRecord keyHash) :
    (mergeKernelStates persisted hot).HasRecord keyHash := by
  obtain ⟨record, found⟩ := present
  by_cases same : persisted.runtimeLookupKey = hot.runtimeLookupKey
  · unfold HasRecord
    rw [records_mergeKernelStates same, Table.find?_merge, found]
    cases hot.records.find? keyHash with
    | none => exact ⟨record, rfl⟩
    | some other => exact ⟨_, rfl⟩
  · rw [mergeKernelStates_of_ne same]
    exact ⟨record, found⟩

theorem Revoked.merge (revoked : persisted.Revoked keyHash) :
    (mergeKernelStates persisted hot).Revoked keyHash := by
  obtain ⟨record, found, invalid⟩ := revoked
  by_cases same : persisted.runtimeLookupKey = hot.runtimeLookupKey
  · unfold Revoked
    rw [records_mergeKernelStates same, Table.find?_merge, found]
    cases hot.records.find? keyHash with
    | none => exact ⟨record, rfl, invalid⟩
    | some other => exact ⟨_, rfl, (mergeKeyRecord_status record other).mpr (.inl invalid)⟩
  · rw [mergeKernelStates_of_ne same]
    exact ⟨record, found, invalid⟩

theorem PermissionRevoked.merge (revoked : persisted.PermissionRevoked key) :
    (mergeKernelStates persisted hot).PermissionRevoked key := by
  obtain ⟨permission, found, invalid⟩ := revoked
  by_cases same : persisted.runtimeLookupKey = hot.runtimeLookupKey
  · unfold PermissionRevoked
    rw [permissions_mergeKernelStates same, Table.find?_merge, found]
    cases hot.permissions.find? key with
    | none => exact ⟨permission, rfl, invalid⟩
    | some other =>
      exact ⟨_, rfl, (mergePermissionRecord_status permission other).mpr (.inl invalid)⟩
  · rw [mergeKernelStates_of_ne same]
    exact ⟨permission, found, invalid⟩

end KernelState

end LicoMesh.CapabilityKernel

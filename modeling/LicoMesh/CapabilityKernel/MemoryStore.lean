import LicoMesh.CapabilityKernel.Store

namespace LicoMesh.CapabilityKernel

open Library WorkQueue

/-! The store in memory beside the sealed one. -/

/-- `createMemoryCapabilityKeyBindingStore`. -/
structure MemoryStore where
  records : Table Sha256Digest KeyRecord KeyRecord.keyHash := .empty
  permissions : Table (Sha256Digest × Sha256Digest) PermissionRecord PermissionRecord.key := .empty

namespace MemoryStore

variable (store : MemoryStore)

def put (record : KeyRecord) (capabilityHashes : List Sha256Digest) (now : Instant) :
    MemoryStore where
  records := store.records.set record
  permissions := capabilityHashes.foldl (fun permissions capabilityHash =>
    permissions.set
      { keyHash := record.keyHash
        capabilityHash := capabilityHash
        status := record.status
        createdAt := some now }) store.permissions

def replaced (record existing : KeyRecord) : Bool :=
  existing.credentialId = record.credentialId && existing.status = .valid

-- setting a key that is present leaves its entry where it is
def replaceCredential (record : KeyRecord) (capabilityHashes : List Sha256Digest) (reason : String)
    (now : Instant) : MemoryStore :=
  let replacedKeyHashes := (store.records.rows.filter (replaced record)).map (·.keyHash)
  let records := store.records.mapRows
    (fun existing => if replaced record existing then existing.invalidate now reason else existing)
    (by intro existing; split <;> rfl)
  let permissions := store.permissions.mapRows
    (fun permission =>
      if replacedKeyHashes.contains permission.keyHash then permission.invalidate else permission)
    (by intro permission; split <;> rfl)
  ({ records, permissions } : MemoryStore).put record capabilityHashes now

def get (keyHash : Sha256Digest) : Option KeyRecord := store.records.find? keyHash

def hasCapability (keyHash : Sha256Digest) (capabilityHashes : List Sha256Digest) : Bool :=
  capabilityHashes.any fun capabilityHash =>
    (store.permissions.find? (keyHash, capabilityHash)).map (·.status) = some .valid

def invalidate (keyHash : Sha256Digest) (reason : String) (now : Instant) :
    MemoryStore × Option KeyRecord :=
  match store.get keyHash with
  | none => (store, none)
  | some existing =>
    let updated := existing.invalidate now reason
    ({ records := store.records.set updated
       permissions := store.permissions.mapRows
        (fun permission =>
          if permission.keyHash = updated.keyHash then permission.invalidate else permission)
        (by intro permission; split <;> rfl) }, some updated)

def list (includeInvalid : Bool) : List KeyRecord :=
  if includeInvalid then store.records.rows
  else store.records.rows.filter fun record => record.status = .valid

end MemoryStore

inductive StoreCall
  | put (record : KeyRecord) (capabilityHashes : List Sha256Digest)
  | replaceCredential (record : KeyRecord) (capabilityHashes : List Sha256Digest)
      (reason : String)
  | invalidate (keyHash : Sha256Digest) (reason : String)
  | get (keyHash : Sha256Digest)
  | hasCapability (keyHash : Sha256Digest) (capabilityHashes : List Sha256Digest)
  | list (includeInvalid : Bool)

/-- A call, the time at which it is made, and the identifier that a save draws for its event. -/
structure TimedCall where
  call : StoreCall
  now : Instant
  eventId : String

inductive StoreAnswer
  | record (record : Option KeyRecord)
  | has (answer : Bool)
  | records (records : List KeyRecord)

def MemoryStore.perform (store : MemoryStore) (timed : TimedCall) : MemoryStore × StoreAnswer :=
  match timed.call with
  | .put record capabilityHashes =>
    (store.put record capabilityHashes timed.now, .record (some record))
  | .replaceCredential record capabilityHashes reason =>
    (store.replaceCredential record capabilityHashes reason timed.now, .record (some record))
  | .invalidate keyHash reason =>
    ((store.invalidate keyHash reason timed.now).1,
      .record (store.invalidate keyHash reason timed.now).2)
  | .get keyHash => (store, .record (store.get keyHash))
  | .hasCapability keyHash capabilityHashes =>
    (store, .has (store.hasCapability keyHash capabilityHashes))
  | .list includeInvalid => (store, .records (store.list includeInvalid))

namespace Config

variable (config : Config)

/-- `load`, run to its end. -/
def loads (id : InstanceId) : Config := (config.step (.read id)).step (.load id)

/-- A call on one sealed store, whose writes all succeed. -/
def perform (id : InstanceId) (config : Config) (timed : TimedCall) : Config × StoreAnswer :=
  let saves (op : StoreOp) := config.step (.mutate id op timed.now timed.eventId .written)
  match timed.call with
  | .put record capabilityHashes =>
    (saves (.put record capabilityHashes), .record (some record))
  | .replaceCredential record capabilityHashes reason =>
    (saves (.replaceCredential record capabilityHashes reason), .record (some record))
  | .invalidate keyHash reason =>
    (saves (.invalidate keyHash reason),
      .record (((config.reloaded id).get keyHash).map (·.invalidate timed.now reason)))
  | .get keyHash => (config.loads id, .record ((config.visible id).get keyHash))
  | .hasCapability keyHash capabilityHashes =>
    (config.loads id, .has ((config.visible id).hasCapability keyHash capabilityHashes))
  | .list includeInvalid => (config.loads id, .records ((config.visible id).list includeInvalid))

end Config

/-- The answers to calls that are made one after the other. -/
def answers (perform : σ → TimedCall → σ × StoreAnswer) : σ → List TimedCall → List StoreAnswer
  | _, [] => []
  | store, timed :: rest => (perform store timed).2 :: answers perform (perform store timed).1 rest

def StoreCall.AsksNothing (call : StoreCall) : Prop := ∃ keyHash, call = .hasCapability keyHash []

structure SameTables (left right : KernelState) : Prop where
  records : left.records = right.records
  permissions : left.permissions = right.permissions
  runtimeLookupKey : left.runtimeLookupKey = right.runtimeLookupKey

theorem laterIso_self (time : IsoText) : laterIso time time = time := by
  unfold laterIso
  split <;> simp

theorem earlierIso_self (time : IsoText) : earlierIso time time = time := by
  unfold earlierIso
  split <;> simp

theorem mergeKeyRecord_self (record : KeyRecord) : mergeKeyRecord.join record record = record := by
  obtain ⟨keyHash, credentialId, status⟩ := record
  cases status <;> simp [mergeKeyRecord, laterIso_self, earlierIso_self]

theorem mergePermissionRecord_self (permission : PermissionRecord) :
    mergePermissionRecord.join permission permission = permission := by
  obtain ⟨keyHash, capabilityHash, status⟩ := permission
  cases status <;> simp [mergePermissionRecord, earlierIso_self]

theorem SameTables.merge (same : SameTables hot persisted) :
    SameTables (mergeKernelStates (normalizeKernelState persisted) hot) persisted := by
  have sameKey : (normalizeKernelState persisted).runtimeLookupKey = hot.runtimeLookupKey :=
    same.runtimeLookupKey.symm
  constructor
  · rw [records_mergeKernelStates sameKey, same.records]
    exact Table.merge_self _ _ mergeKeyRecord_self
  · rw [permissions_mergeKernelStates sameKey, same.permissions]
    exact Table.merge_self _ _ mergePermissionRecord_self
  · unfold mergeKernelStates
    dsimp only
    split <;> rfl

structure Agrees (state : KernelState) (store : MemoryStore) : Prop where
  records : state.records = store.records
  permissions : state.permissions = store.permissions

namespace Agrees

variable {state : KernelState} {store : MemoryStore}

theorem of_same (same : SameTables state other) (agrees : Agrees other store) :
    Agrees state store :=
  ⟨same.records.trans agrees.records, same.permissions.trans agrees.permissions⟩

variable (agrees : Agrees state store)
include agrees

theorem put (record : KeyRecord) (capabilityHashes : List Sha256Digest) (now : Instant) :
    Agrees (state.put record capabilityHashes now) (store.put record capabilityHashes now) := by
  constructor
  · exact congrArg (·.set record) agrees.records
  · unfold KernelState.put MemoryStore.put Table.setAll KernelState.permissionRows
    rw [List.foldl_map, agrees.permissions]

theorem replaceCredential (record : KeyRecord)
    (capabilityHashes : List Sha256Digest) (now : Instant) (reason : String) :
    Agrees (state.replaceCredential record capabilityHashes now reason)
      (store.replaceCredential record capabilityHashes reason now) := by
  refine put ⟨?_, ?_⟩ record capabilityHashes now
  · unfold KernelState.invalidateCredential MemoryStore.replaced
    rw [agrees.records]
  · unfold KernelState.invalidateCredential KernelState.replacedKeyHashes MemoryStore.replaced
    simp only [agrees.records, agrees.permissions, List.contains_iff_mem]

theorem get (keyHash : Sha256Digest) : store.get keyHash = state.get keyHash :=
  congrArg (·.find? keyHash) agrees.records.symm

theorem list (includeInvalid : Bool) : store.list includeInvalid = state.list includeInvalid := by
  unfold MemoryStore.list KernelState.list
  rw [agrees.records]

theorem hasCapability (keyHash : Sha256Digest) {capabilityHashes : List Sha256Digest}
    (asks : capabilityHashes ≠ []) : store.hasCapability keyHash capabilityHashes =
      state.hasCapability keyHash capabilityHashes := by
  unfold MemoryStore.hasCapability KernelState.hasCapability
  rw [Bool.eq_iff_iff, agrees.permissions]
  simp only [Bool.or_eq_true, List.isEmpty_iff, asks, false_or, List.any_eq_true,
    decide_eq_true_eq, Bool.and_eq_true, Option.map_eq_some_iff]
  constructor
  · rintro ⟨capabilityHash, asked, permission, found, valid⟩
    obtain ⟨member, key⟩ := Table.find?_eq_some_iff.mp found
    cases key
    exact ⟨permission, member, ⟨rfl, valid⟩, asked⟩
  · rintro ⟨permission, member, ⟨rfl, valid⟩, asked⟩
    exact ⟨permission.capabilityHash, asked, permission,
      Table.find?_eq_some_iff.mpr ⟨member, rfl⟩, valid⟩

end Agrees

/-- The sealed store `id` and its file hold what the store in memory does. -/
structure Mirrors (config : Config) (id : InstanceId) (store : MemoryStore) : Prop where
  file : Agrees config.file store
  held : ∀ state, (config.instances id).state = some state ∨
    (config.instances id).reading = some state → SameTables state config.file

namespace Mirrors

variable {config : Config} {id : InstanceId} {store next : MemoryStore}

variable (mirrors : Mirrors config id store)
include mirrors

theorem reloaded_same : SameTables (config.reloaded id) config.file := by
  unfold Config.reloaded Instance.reloaded
  cases loaded : (config.instances id).state with
  | none => exact ⟨rfl, rfl, rfl⟩
  | some hotState => exact (mirrors.held hotState (.inl loaded)).merge

theorem reloaded : Agrees (config.reloaded id) store :=
  .of_same mirrors.reloaded_same mirrors.file

theorem visible : Agrees (config.visible id) store := by
  refine .of_same ?_ mirrors.file
  unfold Config.visible
  dsimp only
  cases loaded : (config.instances id).state with
  | some state => exact mirrors.held state (.inl loaded)
  | none =>
    cases reading : (config.instances id).reading with
    | some state => exact mirrors.held state (.inr reading)
    | none => exact ⟨rfl, rfl, rfl⟩

theorem holds (held : ∀ state,
      holder.state = some state ∨ holder.reading = some state → SameTables state config.file) :
    Mirrors (config.setInstance id holder) id store where
  file := mirrors.file
  held := by
    rw [Config.instances_setInstance]
    exact held

theorem loads : Mirrors (config.loads id) id store := by
  have read : Mirrors (config.step (.read id)) id store := by
    dsimp only [Config.step]
    split
    · refine mirrors.holds ?_
      rintro state (held | held) <;> cases held
      exact ⟨rfl, rfl, rfl⟩
    · exact mirrors
  unfold Config.loads
  generalize config.step (.read id) = config at read
  dsimp only [Config.step]
  split
  · rename_i loaded reading
    refine read.holds ?_
    rintro state (held | held) <;> cases held
    exact read.held loaded (.inr reading)
  · exact read

omit mirrors

theorem saves (applied : op.apply (config.reloaded id) now = some (changed, action))
    (agrees : Agrees changed next) :
    Mirrors (config.step (.mutate id op now eventId .written)) id next := by
  have file : (config.step (.mutate id op now eventId .written)).file =
      changed.saved eventId now action := Config.file_of_applied applied
  constructor
  · rw [file]
    exact ⟨agrees.records, agrees.permissions⟩
  · rw [file, Config.instances_of_applied applied]
    rintro state (held | held) <;> cases held
    exact ⟨rfl, rfl, rfl⟩

include mirrors

theorem invalidate (keyHash : Sha256Digest) (reason : String) (now : Instant) (eventId : String) :
    Mirrors (config.step (.mutate id (.invalidate keyHash reason) now eventId .written)) id
        (store.invalidate keyHash reason now).1 ∧ (store.invalidate keyHash reason now).2 =
        ((config.reloaded id).get keyHash).map (·.invalidate now reason) := by
  have agrees := mirrors.reloaded
  unfold MemoryStore.invalidate
  rw [agrees.get keyHash]
  cases found : (config.reloaded id).get keyHash with
  | none =>
    have refused : (StoreOp.invalidate keyHash reason).apply (config.reloaded id) now = none :=
      congrArg (Option.map _) found
    refine ⟨?_, rfl⟩
    simp only [Config.step, Config.mutate, refused]
    refine mirrors.holds ?_
    rintro state (held | held) <;> cases held
    exact mirrors.reloaded_same
  | some existing =>
    refine ⟨saves (congrArg (Option.map _) found) ⟨?_, ?_⟩, rfl⟩
    · exact congrArg (·.set (existing.invalidate now reason)) agrees.records
    · unfold KernelState.invalidate
      rw [agrees.permissions]
      rfl

theorem perform (timed : TimedCall) :
    Mirrors (Config.perform id config timed).1 id (store.perform timed).1 ∧
      ((store.perform timed).2 = (Config.perform id config timed).2 ↔ ¬timed.call.AsksNothing) := by
  obtain ⟨call, now, eventId⟩ := timed
  cases call with
  | put record capabilityHashes =>
    have applied : (StoreOp.put record capabilityHashes).apply (config.reloaded id) now =
        some (_, _) := rfl
    exact ⟨saves applied (mirrors.reloaded.put ..), iff_of_true rfl nofun⟩
  | replaceCredential record capabilityHashes reason =>
    have applied : (StoreOp.replaceCredential record capabilityHashes reason).apply
        (config.reloaded id) now = some (_, _) := rfl
    exact ⟨saves applied (mirrors.reloaded.replaceCredential ..), iff_of_true rfl nofun⟩
  | invalidate keyHash reason =>
    obtain ⟨next, answer⟩ := mirrors.invalidate keyHash reason now eventId
    exact ⟨next, iff_of_true (congrArg StoreAnswer.record answer) nofun⟩
  | get keyHash =>
    exact ⟨mirrors.loads,
      iff_of_true (congrArg StoreAnswer.record (mirrors.visible.get keyHash)) nofun⟩
  | hasCapability keyHash capabilityHashes =>
    refine ⟨mirrors.loads, ?_⟩
    by_cases asks : capabilityHashes = []
    · subst asks
      exact iff_of_false (fun same => nomatch same) fun fails => fails ⟨keyHash, rfl⟩
    · refine iff_of_true (congrArg StoreAnswer.has (mirrors.visible.hasCapability keyHash asks)) ?_
      rintro ⟨_, same⟩
      cases same
      exact asks rfl
  | list includeInvalid =>
    exact ⟨mirrors.loads,
      iff_of_true (congrArg StoreAnswer.records (mirrors.visible.list includeInvalid)) nofun⟩

theorem answers_iff (calls : List TimedCall) : answers MemoryStore.perform store calls =
      answers (Config.perform id) config calls ↔ ∀ timed ∈ calls, ¬timed.call.AsksNothing := by
  induction calls generalizing config store with
  | nil => exact iff_of_true rfl (List.forall_mem_nil _)
  | cons timed rest induction =>
    obtain ⟨next, answer⟩ := mirrors.perform timed
    rw [List.forall_mem_cons, ← answer, ← induction next]
    exact List.cons_eq_cons

end Mirrors

end LicoMesh.CapabilityKernel

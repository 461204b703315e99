import LicoMesh.CapabilityKernel.Provider
import LicoMesh.CapabilityKernel.SharedFile

namespace LicoMesh.CapabilityKernel

open Library WorkQueue

variable {cached : KernelState}

/-- `invalidate` and `invalidateCredential` of a provider. -/
inductive InvalidateCall
  | invalidate (key capabilityKey : String)
  | invalidateCredential (credentialId : String)

def InvalidateCall.targets (env : ProviderEnv) (lookupKey : LookupKey) (visible : KernelState) :
    InvalidateCall → List Sha256Digest
  | .invalidate key capabilityKey =>
    if rawCapabilityKey key capabilityKey = "" then []
    else [capabilityKeyHash env lookupKey (rawCapabilityKey key capabilityKey)]
  | .invalidateCredential credentialId => credentialKeyHashes visible credentialId

def Event.MutatesAt (event : Event) (id : InstanceId) : Prop :=
  ∃ op now eventId outcome, event = .mutate id op now eventId outcome

namespace Config

variable {config met : Config} {event : Event} {keyHash : Sha256Digest} {id other : InstanceId}

/-- The call of provider `id` that started at `config` invalidates a key it finds. -/
def Invalidates (config : Config) (env : ProviderEnv) (lookupKey : LookupKey) (id : InstanceId)
    (call : InvalidateCall) (keyHash : Sha256Digest) (during : List Event) (event : Event) : Prop :=
  keyHash ∈ call.targets env lookupKey (config.visible id) ∧
    ((config.run during).reloaded id).HasRecord keyHash ∧
      ∃ reason now eventId, event = .mutate id (.invalidate keyHash reason) now eventId .written

def Informed (config : Config) (id : InstanceId) (keyHash : Sha256Digest) : Prop :=
  ∀ state, (config.instances id).state = some state ∨ (config.instances id).reading = some state →
    state.Revoked keyHash

theorem Informed.visible (informed : config.Informed id keyHash)
    (revoked : config.file.Revoked keyHash) : (config.visible id).Revoked keyHash := by
  unfold Config.visible
  dsimp only
  cases loaded : (config.instances id).state with
  | some state => exact informed state (.inl loaded)
  | none =>
    cases reading : (config.instances id).reading with
    | some state => exact informed state (.inr reading)
    | none => exact revoked

theorem informed_setInstance (informed : config.Informed id keyHash)
    (held : ∀ state, store.state = some state ∨ store.reading = some state →
      state.Revoked keyHash) : (config.setInstance other store).Informed id keyHash := by
  intro state present
  by_cases same : id = other
  · subst same
    rw [instances_setInstance] at present
    exact held state present
  · rw [instances_setInstance_ne _ same] at present
    exact informed state present

theorem informed_mutate (revoked : config.file.Revoked keyHash) (kept : ¬op.Issues keyHash) :
    (config.step (.mutate id op now eventId outcome)).Informed id keyHash := by
  intro state present
  simp only [step, mutate] at present
  cases applied : op.apply (config.reloaded id) now with
  | none =>
    rw [applied, instances_setInstance] at present
    obtain held | held := present
    · cases held
      exact revoked_reloaded revoked id
    · cases held
  | some result =>
    obtain ⟨changed, action⟩ := result
    have still : changed.Revoked keyHash :=
      StoreOp.revoked_apply applied kept (revoked_reloaded revoked id)
    rw [applied] at present
    have present' : ((config.setInstance id
        { state := some (changed.saved eventId now action) }).instances id).state = some state ∨
        ((config.setInstance id { state := some (changed.saved eventId now action) }).instances
          id).reading = some state := present
    rw [instances_setInstance] at present'
    obtain held | held := present'
    · cases held
      exact still
    · cases held

theorem Informed.step (informed : config.Informed id keyHash)
    (revoked : config.file.Revoked keyHash) (kept : ¬event.Issues keyHash) :
    (config.step event).Informed id keyHash := by
  have fresh : (normalizeKernelState config.file).Revoked keyHash := revoked
  cases event with
  | read reader =>
    simp only [step]
    split
    · refine informed_setInstance informed ?_
      intro state held
      obtain held | held := held
      · cases held
      · cases held
        exact fresh
    · exact informed
  | load reader =>
    simp only [step]
    split
    · rename_i loaded reading
      by_cases same : id = reader
      · subst same
        refine informed_setInstance informed ?_
        intro state held
        obtain held | held := held
        · exact informed state (.inr (reading.trans held))
        · cases held
      · intro state held
        rw [instances_setInstance_ne _ same] at held
        exact informed state held
    · exact informed
  | loadRuntimeLookupKey reader =>
    simp only [step]
    split
    · refine informed_setInstance informed ?_
      intro state held
      obtain held | held := held
      · cases held
        exact fresh
      · cases held
    · exact informed
  | mutate writer op now eventId outcome =>
    by_cases same : id = writer
    · subst same
      exact informed_mutate revoked fun issues => kept ⟨id, op, now, eventId, outcome, rfl, issues⟩
    · have unchanged : (config.step (.mutate writer op now eventId outcome)).instances id =
          config.instances id := config.instances_mutate_ne same
      intro state held
      rw [unchanged] at held
      exact informed state held

theorem Informed.run (later : List Event) (informed : config.Informed id keyHash)
    (revoked : config.file.Revoked keyHash) (kept : ∀ event ∈ later, ¬event.Issues keyHash) :
    (config.run later).Informed id keyHash := by
  induction later generalizing config with
  | nil => exact informed
  | cons event rest induction =>
    have here : ¬event.Issues keyHash := kept event List.mem_cons_self
    exact induction (informed.step revoked here) (revoked_step revoked here)
      fun event member => kept event (List.mem_cons_of_mem _ member)

/-- Provider `other` learns of what provider `id` invalidated between `met` and the end of
`later`. -/
def Informs (met : Config) (id other : InstanceId) (later : List Event) : Prop :=
  other = id ∨ ((met.instances other).state = none ∧ (met.instances other).reading = none) ∨
    ∃ event ∈ later, event.MutatesAt other

theorem informed_of_mutates (later : List Event) (revoked : config.file.Revoked keyHash)
    (kept : ∀ event ∈ later, ¬event.Issues keyHash)
    (mutates : ∃ event ∈ later, event.MutatesAt id) : (config.run later).Informed id keyHash := by
  obtain ⟨event, member, op, now, eventId, outcome, rfl⟩ := mutates
  obtain ⟨before, rest, rfl⟩ := List.append_of_mem member
  have here : ¬op.Issues keyHash := fun issues =>
    kept _ member ⟨id, op, now, eventId, outcome, rfl, issues⟩
  have reached : (config.run before).file.Revoked keyHash :=
    revoked_run before (fun event inBefore => kept event (List.mem_append_left _ inBefore)) revoked
  rw [run, runAll_append]
  exact (informed_mutate reached here).run rest (revoked_step reached (kept _ member))
    fun event inRest => kept event (List.mem_append_right _ (List.mem_cons_of_mem _ inRest))

/-- A written `invalidate` that finds its key revokes it in the file and in its store. -/
theorem step_invalidate (reason : String) (now : Instant) (eventId : String)
    (found : (config.reloaded id).HasRecord keyHash) :
    let next := config.step (.mutate id (.invalidate keyHash reason) now eventId .written)
    next.file.Revoked keyHash ∧ next.Informed id keyHash := by
  obtain ⟨changed, action, applied⟩ := StoreOp.exists_apply_invalidate found now reason
  have revoked : changed.Revoked keyHash := (StoreOp.apply_invalidate applied).1
  refine ⟨?_, ?_⟩
  · rw [file_of_applied applied]
    exact revoked
  · intro state held
    rw [instances_of_applied applied] at held
    obtain held | held := held
    · cases held
      exact revoked
    · cases held

def Settled (config : Config) : Prop :=
  ∀ id, (config.instances id).state = none ∨ (config.instances id).reading = none

theorem settled_setInstance (settled : config.Settled)
    (one : store.state = none ∨ store.reading = none) : (config.setInstance id store).Settled := by
  intro other
  by_cases same : other = id
  · subst same
    rw [instances_setInstance]
    exact one
  · rw [instances_setInstance_ne _ same]
    exact settled other

theorem Settled.step (settled : config.Settled) : (config.step event).Settled := by
  cases event with
  | read reader =>
    simp only [step]
    split
    · exact settled_setInstance settled (.inl rfl)
    · exact settled
  | load reader =>
    simp only [step]
    split
    · exact settled_setInstance settled (.inr rfl)
    · exact settled
  | loadRuntimeLookupKey reader =>
    simp only [step]
    split
    · exact settled_setInstance settled (.inr rfl)
    · exact settled
  | mutate writer op now eventId outcome =>
    simp only [step, mutate]
    split
    · exact settled_setInstance settled (.inr rfl)
    · exact settled_setInstance settled (.inr rfl)

theorem Settled.instances_step (settled : config.Settled)
    (loaded : (config.instances id).state = some cached) (idle : ¬event.MutatesAt id) :
    ((config.step event).instances id).state = some cached := by
  have notReading : (config.instances id).reading = none := by
    obtain absent | absent := settled id
    · rw [loaded] at absent
      cases absent
    · exact absent
  cases event with
  | read reader =>
    by_cases same : id = reader
    · subst same
      simp [Config.step, loaded]
    · simp only [Config.step]
      split
      · rw [instances_setInstance_ne _ same]
        exact loaded
      · exact loaded
  | load reader =>
    by_cases same : id = reader
    · subst same
      simpa [Config.step, notReading] using loaded
    · simp only [Config.step]
      split
      · rw [instances_setInstance_ne _ same]
        exact loaded
      · exact loaded
  | loadRuntimeLookupKey reader =>
    by_cases same : id = reader
    · subst same
      simp [Config.step, loaded]
    · simp only [Config.step]
      split
      · rw [instances_setInstance_ne _ same]
        exact loaded
      · exact loaded
  | mutate writer op now eventId outcome =>
    have different : id ≠ writer := by
      intro same
      subst same
      exact idle ⟨op, now, eventId, outcome, rfl⟩
    simp only [Config.step]
    rw [config.instances_mutate_ne different]
    exact loaded

theorem settled_start (file : KernelState) : (start file).Settled := fun _ => .inl rfl

theorem Settled.visible_run (settled : config.Settled) (later : List Event)
    (loaded : (config.instances id).state = some cached)
    (idle : ∀ event ∈ later, ¬event.MutatesAt id) : (config.run later).visible id = cached := by
  have kept : ((config.run later).instances id).state = some cached := by
    induction later generalizing config with
    | nil => exact loaded
    | cons event rest induction =>
      refine induction settled.step ?_ fun event member => idle event (List.mem_cons_of_mem _ member)
      exact settled.instances_step loaded (idle event List.mem_cons_self)
  simp [visible, kept]

end Config

open Config

/-- Once a key is invalidated, every provider that learns of it refuses the key until it is issued
again; a provider that had loaded the file and runs no mutation answers as before. -/
theorem invalidated_key_refused {file : KernelState} {before during later : List Event}
    {env : ProviderEnv} {lookupKey : LookupKey} {id other : InstanceId} {call : InvalidateCall}
    {keyHash : Sha256Digest} {event : Event}
    (invalidates : ((start file).run before).Invalidates env lookupKey id call keyHash during event)
    (unissued : ∀ event ∈ later, ¬event.Issues keyHash) :
    let met := ((start file).run before).run during
    let last := (met.step event).run later
    (met.Informs id other later →
      ∀ request seen, capabilityKeyHash env lookupKey request.rawKey = keyHash →
        seen 0 = last.visible other → (verify env lookupKey seen request).ok = false) ∧
    (other ≠ id → ∀ cached, (met.instances other).state = some cached →
      (∀ event ∈ later, ¬event.MutatesAt other) →
        ∀ request, verify env lookupKey (fun _ => last.visible other) request =
          verify env lookupKey (fun _ => cached) request) := by
  intro met last
  obtain ⟨-, found, reason, now, eventId, rfl⟩ := invalidates
  obtain ⟨revoked, informedHere⟩ := step_invalidate reason now eventId found
  refine ⟨?_, ?_⟩
  · intro informs request seen affected reads
    have informed : last.Informed other keyHash := by
      obtain rfl | unloaded | mutates := informs
      · exact informedHere.run later revoked unissued
      · by_cases same : other = id
        · subst same
          exact informedHere.run later revoked unissued
        · have untold : (met.step (.mutate id (.invalidate keyHash reason) now eventId
              .written)).Informed other keyHash := by
            intro state held
            simp only [step] at held
            rw [met.instances_mutate_ne same, unloaded.1, unloaded.2] at held
            obtain held | held := held
            · cases held
            · cases held
          exact untold.run later revoked unissued
      · exact informed_of_mutates later revoked unissued mutates
    refine verify_of_revoked ?_
    rw [affected, reads]
    exact informed.visible (revoked_run later unissued revoked)
  · intro different cached loaded idle request
    have settled : met.Settled := by
      have reached : ((start file).run (before ++ during)).Settled :=
        runAll_invariant (fun _ _ settled => settled.step) (settled_start file) (before ++ during)
      rw [run, runAll_append] at reached
      exact reached
    have loaded' : ((met.step (.mutate id (.invalidate keyHash reason) now eventId
        .written)).instances other).state = some cached := by
      simp only [step]
      rw [met.instances_mutate_ne different]
      exact loaded
    have same : last.visible other = cached := settled.step.visible_run later loaded' idle
    rw [same]

/-! Two providers over one file; provider 1 has loaded it when provider 0 invalidates. -/

def sampleIssue : IssueInput where
  capabilityKey := some "ock_sample"
  randomKey := "ock_unused"
  capabilities := ["cap:api:*"]
  options := { credentialId := "cred-a", randomId := "opq_cap_1" }

def sampleRequest : VerifyRequest where
  capabilityKey := "ock_sample"
  requiredCapability := "cap:api:authorization.roles.list"
  now := 40

def sampleKeyHash : Sha256Digest := capabilityKeyHash sampleProviderEnv sampleLookupKey "ock_sample"

def issueEvents (id : InstanceId) : List Event :=
  ((issue sampleProviderEnv sampleLookupKey sampleIssue 10).map fun op =>
    .mutate id op 10 "cap_event_1" .written).toList

def invalidateEvent (id : InstanceId) : Event :=
  .mutate id (.invalidate sampleKeyHash "revoked") 20 "cap_event_2" .written

def kernelFile : KernelState := createEmptyKernelState sampleLookupKey 0

/-- Provider 1 learns of the revocation by a mutation of its own. -/
theorem invalidated_key_refused_after_mutation :
    let met := ((start kernelFile).run (issueEvents 0 ++ [.loadRuntimeLookupKey 1])).run []
    let last := (met.step (invalidateEvent 0)).run
      [.mutate 1 (.invalidate (sampleDigest 3) "other") 30 "cap_event_3" .written]
    (verify sampleProviderEnv sampleLookupKey (fun _ => last.visible 1) sampleRequest).ok =
      false := by
  intro met last
  have present : ((met.reloaded 0).records.find? sampleKeyHash).isSome = true := by decide +kernel
  have unissued : ∀ event ∈ [Event.mutate 1 (.invalidate (sampleDigest 3) "other") 30
      "cap_event_3" .written], ¬event.Issues sampleKeyHash := by
    intro event member issues
    obtain rfl := List.mem_singleton.mp member
    obtain ⟨id, op, now, eventId, outcome, same, record, issued, -⟩ := issues
    cases same
    cases issued
  have invalidates : ((start kernelFile).run
      (issueEvents 0 ++ [.loadRuntimeLookupKey 1])).Invalidates sampleProviderEnv sampleLookupKey
        0 (.invalidate "" "ock_sample") sampleKeyHash [] (invalidateEvent 0) :=
    ⟨by decide +kernel, Option.isSome_iff_exists.mp present, "revoked", 20, "cap_event_2", rfl⟩
  have informs : met.Informs 0 1 [.mutate 1 (.invalidate (sampleDigest 3) "other") 30
      "cap_event_3" .written] :=
    .inr (.inr ⟨_, List.mem_singleton_self _, _, _, _, _, rfl⟩)
  exact (invalidated_key_refused invalidates unissued).1 informs sampleRequest _
    (by decide +kernel) rfl

/-- Provider 1 accepts the key after provider 0 has invalidated it, and provider 0 accepts a key
of a credential that provider 1, having loaded the file before, invalidates. -/
theorem invalidated_key_accepted :
    (let last := (start kernelFile).run
      (issueEvents 0 ++ [.loadRuntimeLookupKey 1, invalidateEvent 0])
    (last.file.get sampleKeyHash).map (·.status) = some .invalid ∧
      (verify sampleProviderEnv sampleLookupKey (fun _ => last.visible 1) sampleRequest).ok =
        true) ∧
    (let last := (start kernelFile).run (.loadRuntimeLookupKey 1 :: issueEvents 0)
    (InvalidateCall.invalidateCredential "cred-a").targets sampleProviderEnv sampleLookupKey
        (last.visible 1) = [] ∧
      (verify sampleProviderEnv sampleLookupKey (fun _ => last.visible 0) sampleRequest).ok =
        true) := by
  decide +kernel

end LicoMesh.CapabilityKernel

import LicoMesh.CapabilityKernel.Store

namespace LicoMesh.CapabilityKernel

open Option

open Library WorkQueue

variable {key : Sha256Digest × Sha256Digest} {record : KeyRecord}
  {capabilityHashes : List Sha256Digest} {reason : String}

def StoreOp.issued : StoreOp → Option KeyRecord
  | .put record _ => some record
  | .replaceCredential record _ _ => some record
  | _ => none

def StoreOp.Issues (op : StoreOp) (keyHash : Sha256Digest) : Prop :=
  ∃ record, op.issued = some record ∧ record.keyHash = keyHash

variable {op : StoreOp} {state changed : KernelState} {action : KernelAction} {now : Instant}
  {keyHash : Sha256Digest}

namespace KernelState

theorem find?_put (record : KeyRecord) (capabilityHashes : List Sha256Digest) (now : Instant)
    (keyHash : Sha256Digest) : (state.put record capabilityHashes now).records.find? keyHash =
      if keyHash = record.keyHash then some record else state.records.find? keyHash :=
  Table.find?_set ..

theorem find?_invalidateCredential (credentialId : String) (now : Instant) (reason : String)
    (keyHash : Sha256Digest) :
    (state.invalidateCredential credentialId now reason).records.find? keyHash =
      (state.records.find? keyHash).map fun item =>
        if item.credentialId = credentialId && item.status = .valid then
          item.invalidate now reason
        else item := by
  simp only [invalidateCredential, Table.find?_mapRows]

theorem find?_invalidate (existing : KeyRecord) (now : Instant) (reason : String)
    (keyHash : Sha256Digest) : (state.invalidate existing now reason).records.find? keyHash =
      if keyHash = existing.keyHash then some (existing.invalidate now reason)
      else state.records.find? keyHash :=
  Table.find?_set ..

end KernelState

namespace StoreOp

section

variable (applied : op.apply state now = some (changed, action))
include applied

theorem find?_apply (found : changed.records.find? keyHash = some record) :
    op.issued = some record ∧ record.keyHash = keyHash ∨ state.records.find? keyHash = some record ∨
      ∃ existing reason, state.records.find? keyHash = some existing ∧
        record = existing.invalidate now reason := by
  cases op with
  | put issued capabilityHashes =>
    cases applied
    rw [KernelState.find?_put] at found
    split at found
    · rename_i same
      cases found
      exact .inl ⟨rfl, same.symm⟩
    · exact .inr (.inl found)
  | replaceCredential issued capabilityHashes reason =>
    cases applied
    rw [KernelState.replaceCredential, KernelState.find?_put] at found
    split at found
    · rename_i same
      cases found
      exact .inl ⟨rfl, same.symm⟩
    · rw [KernelState.find?_invalidateCredential] at found
      obtain ⟨item, present, result⟩ := map_eq_some_iff.mp found
      split at result
      · exact .inr (.inr ⟨item, reason, present, result.symm⟩)
      · exact .inr (.inl (result ▸ present))
  | invalidate target reason =>
    obtain ⟨existing, present, result⟩ := map_eq_some_iff.mp applied
    cases result
    rw [KernelState.find?_invalidate] at found
    split at found
    · rename_i same
      cases found
      refine .inr (.inr ⟨existing, reason, ?_, rfl⟩)
      rw [same, state.records.key_of_find? present]
      exact present
    · exact .inr (.inl found)
  | rotateRuntimeLookupKey randomKey =>
    simp only [apply] at applied
    split at applied
    · cases applied
      exact .inr (.inl found)
    · cases applied

theorem hasRecord_apply (present : state.HasRecord keyHash) : changed.HasRecord keyHash := by
  obtain ⟨record, found⟩ := present
  unfold KernelState.HasRecord
  cases op with
  | put issued capabilityHashes =>
    cases applied
    rw [KernelState.find?_put]
    split
    · exact ⟨_, rfl⟩
    · exact ⟨record, found⟩
  | replaceCredential issued capabilityHashes reason =>
    cases applied
    rw [KernelState.replaceCredential, KernelState.find?_put,
      KernelState.find?_invalidateCredential, found]
    split
    · exact ⟨_, rfl⟩
    · exact ⟨_, rfl⟩
  | invalidate target reason =>
    obtain ⟨existing, present, result⟩ := map_eq_some_iff.mp applied
    cases result
    rw [KernelState.find?_invalidate]
    split
    · exact ⟨_, rfl⟩
    · exact ⟨record, found⟩
  | rotateRuntimeLookupKey randomKey =>
    simp only [apply] at applied
    split at applied
    · cases applied
      exact ⟨record, found⟩
    · cases applied

theorem hasRecord_issued (issues : op.Issues keyHash) :
    ∃ record, op.issued = some record ∧ changed.records.find? keyHash = some record := by
  obtain ⟨record, issued, rfl⟩ := issues
  refine ⟨record, issued, ?_⟩
  cases op with
  | put issued' capabilityHashes =>
    cases applied
    cases issued
    simp [KernelState.find?_put]
  | replaceCredential issued' capabilityHashes reason =>
    cases applied
    cases issued
    simp [KernelState.replaceCredential, KernelState.find?_put]
  | _ => cases issued

theorem revoked_apply
    (kept : ¬op.Issues keyHash) (revoked : state.Revoked keyHash) : changed.Revoked keyHash := by
  obtain ⟨record, found, invalid⟩ := revoked
  obtain ⟨later, present⟩ := hasRecord_apply applied ⟨record, found⟩
  refine ⟨later, present, ?_⟩
  obtain ⟨issued, same⟩ | unchanged | ⟨existing, reason, found', rfl⟩ := find?_apply applied present
  · exact absurd ⟨later, issued, same⟩ kept
  · obtain rfl : record = later := by simpa [found] using unchanged
    exact invalid
  · rfl

end

end StoreOp

namespace KernelState

theorem find?_permissions_put_of_ne (different : key.1 ≠ record.keyHash) :
    (state.put record capabilityHashes now).permissions.find? key =
      state.permissions.find? key := by
  refine Table.find?_setAll_of_not_mem ?_
  intro row member same
  obtain ⟨capabilityHash, -, rfl⟩ := List.mem_map.mp member
  exact different (by rw [← same]; rfl)

theorem find?_permissions_invalidateCredential (credentialId : String) (now : Instant)
    (reason : String) (key : Sha256Digest × Sha256Digest) :
    (state.invalidateCredential credentialId now reason).permissions.find? key =
      (state.permissions.find? key).map fun permission =>
        if permission.keyHash ∈ state.replacedKeyHashes credentialId then permission.invalidate
        else permission := by
  simp only [invalidateCredential, Table.find?_mapRows]

theorem find?_permissions_invalidate (existing : KeyRecord) (now : Instant) (reason : String)
    (key : Sha256Digest × Sha256Digest) :
    (state.invalidate existing now reason).permissions.find? key =
      (state.permissions.find? key).map fun permission =>
        if permission.keyHash = existing.keyHash then permission.invalidate else permission := by
  simp only [invalidate, Table.find?_mapRows]

end KernelState

namespace StoreOp

theorem permissionRevoked_apply (applied : op.apply state now = some (changed, action))
    (kept : ¬op.Issues key.1) (revoked : state.PermissionRevoked key) :
    changed.PermissionRevoked key := by
  obtain ⟨permission, found, invalid⟩ := revoked
  have rewritten : ∀ (keep : PermissionRecord → Prop) [DecidablePred keep],
      ∃ later, (state.permissions.find? key).map
        (fun permission => if keep permission then permission.invalidate else permission) =
          some later ∧ later.status = .invalid := by
    intro keep _
    refine ⟨_, by rw [found]; rfl, ?_⟩
    dsimp only
    split
    · rfl
    · exact invalid
  unfold KernelState.PermissionRevoked
  cases op with
  | put issued capabilityHashes =>
    cases applied
    have different : key.1 ≠ issued.keyHash := fun same => kept ⟨issued, rfl, same.symm⟩
    exact ⟨permission, (KernelState.find?_permissions_put_of_ne different).trans found, invalid⟩
  | replaceCredential issued capabilityHashes reason =>
    cases applied
    have different : key.1 ≠ issued.keyHash := fun same => kept ⟨issued, rfl, same.symm⟩
    rw [KernelState.replaceCredential, KernelState.find?_permissions_put_of_ne different,
      KernelState.find?_permissions_invalidateCredential]
    exact rewritten _
  | invalidate target reason =>
    obtain ⟨existing, present, result⟩ := map_eq_some_iff.mp applied
    cases result
    rw [KernelState.find?_permissions_invalidate]
    exact rewritten _
  | rotateRuntimeLookupKey randomKey =>
    simp only [apply] at applied
    split at applied
    · cases applied
      exact ⟨permission, found, invalid⟩
    · cases applied

theorem exists_apply_invalidate (present : state.HasRecord keyHash) (now : Instant)
    (reason : String) : ∃ changed action,
      (invalidate keyHash reason).apply state now = some (changed, action) := by
  obtain ⟨existing, found⟩ := present
  exact ⟨state.invalidate existing now reason, .invalidate keyHash (toText reason),
    by simp [apply, found]⟩

theorem apply_invalidate (applied : (invalidate keyHash reason).apply
    state now = some (changed, action)) : changed.KeyRevoked keyHash := by
  obtain ⟨existing, present, result⟩ := map_eq_some_iff.mp applied
  have same : existing.keyHash = keyHash := state.records.key_of_find? present
  cases result
  refine ⟨⟨existing.invalidate now reason, ?_, rfl⟩, ?_⟩
  · rw [KernelState.find?_invalidate, if_pos same.symm]
  · intro key permission hkey found
    rw [KernelState.find?_permissions_invalidate] at found
    obtain ⟨row, rowFound, rfl⟩ := map_eq_some_iff.mp found
    have rowKey : row.keyHash = existing.keyHash := by
      have equal : row.key = key := state.permissions.key_of_find? rowFound
      rw [same, ← hkey, ← equal]
      rfl
    rw [if_pos rowKey]
    rfl

variable {issued : KeyRecord}

/-- `replaceCredential` does the same to the other valid keys of its credential. -/
theorem apply_replaced (applied : (replaceCredential issued capabilityHashes reason).apply
      state now = some (changed, action))
    (replaced : keyHash ∈ state.replacedKeyHashes issued.credentialId)
    (other : keyHash ≠ issued.keyHash) : changed.KeyRevoked keyHash := by
  obtain ⟨record, listed, rfl⟩ := List.mem_map.mp replaced
  obtain ⟨member, live⟩ := List.mem_filter.mp listed
  cases applied
  refine ⟨⟨record.invalidate now reason, ?_, rfl⟩, ?_⟩
  · rw [KernelState.replaceCredential, KernelState.find?_put, if_neg other,
      KernelState.find?_invalidateCredential, state.records.find?_of_mem member, map_some,
      if_pos live]
  · intro key permission hkey found
    rw [KernelState.replaceCredential,
      KernelState.find?_permissions_put_of_ne (by rw [hkey]; exact other),
      KernelState.find?_permissions_invalidateCredential] at found
    obtain ⟨row, rowFound, rfl⟩ := map_eq_some_iff.mp found
    have rowKey : row.keyHash = record.keyHash := by
      have equal : row.key = key := state.permissions.key_of_find? rowFound
      rw [← hkey, ← equal]
      rfl
    rw [if_pos (rowKey ▸ replaced)]
    rfl

/-- `replaceCredential` leaves its own record the only valid one of the credential. -/
theorem apply_replaceCredential
    (applied : (StoreOp.replaceCredential issued capabilityHashes reason).apply
      state now = some (changed, action)) (found : changed.records.find? keyHash = some record)
    (credential : record.credentialId = issued.credentialId) (other : keyHash ≠ issued.keyHash) :
    record.status = .invalid := by
  cases applied
  rw [KernelState.replaceCredential, KernelState.find?_put, if_neg other,
    KernelState.find?_invalidateCredential] at found
  obtain ⟨item, present, rfl⟩ := map_eq_some_iff.mp found
  split
  · rfl
  · rename_i live
    have itemCredential : item.credentialId = issued.credentialId := by
      rw [if_neg live] at credential
      exact credential
    simpa [itemCredential, CapabilityStatus.ne_valid_iff] using live

end StoreOp

end LicoMesh.CapabilityKernel

import LicoMesh.ApiKeys.Worker

namespace LicoMesh.ApiKeys

open Library.Transaction

variable {input : RevokeInput} {record row : ApiKeyRecord} {snapshot : OrganizationSnapshot}
  {authorization : Authorization} {env : WorkerEnv} {store next : Store} {nowMs : Nat}

theorem create_ok {input : CreateInput} (ok : create input nowMs store = .ok next) :
    ∃ record, record.keyId = input.keyId ∧ store.records input.keyId = none ∧
      record.verifierDigest.keyId = input.keyId ∧ record.verifierDigest.secret = input.secret ∧
      record.status = .active ∧ record.useCount = 0 ∧
      next = { store.setRecord input.keyId record with drawn := store.drawn + 1 } := by
  obtain ⟨scopes, -, ok⟩ := bind_eq_ok.mp ok
  obtain ⟨_, -, ok⟩ := bind_eq_ok.mp ok
  obtain ⟨_, -, ok⟩ := bind_eq_ok.mp ok
  obtain ⟨policy, -, ok⟩ := bind_eq_ok.mp ok
  obtain ⟨lineage, -, ok⟩ := bind_eq_ok.mp ok
  obtain ⟨_, -, ok⟩ := bind_eq_ok.mp ok
  obtain ⟨key, -, ok⟩ := bind_eq_ok.mp ok
  obtain ⟨currentScopes, -, ok⟩ := bind_eq_ok.mp ok
  obtain ⟨_, -, ok⟩ := bind_eq_ok.mp ok
  obtain ⟨_, -, ok⟩ := bind_eq_ok.mp ok
  obtain ⟨_, absent, ok⟩ := bind_eq_ok.mp ok
  rw [require_eq_ok, Option.isNone_iff_eq_none] at absent
  cases ok
  exact ⟨_, rfl, absent, rfl, rfl, rfl, rfl, rfl⟩

theorem scopedRecord_ok (ok : scopedRecord store keyId scopes = .ok (row, answer)) :
    store.records keyId = some row ∧ scopes = .ok answer ∧
      row.organizationNodeId ∈ answer.eligibleNodeIds := by
  obtain ⟨given, isGiven, ok⟩ := bind_eq_ok.mp ok
  cases present : store.records keyId with
  | none => rw [present] at ok; cases ok
  | some found =>
    rw [present] at ok
    obtain ⟨_, eligible, ok⟩ := bind_eq_ok.mp ok
    cases ok
    exact ⟨rfl, isGiven, require_eq_ok.mp eligible⟩

theorem rotate_ok {input : RotateInput} (ok : rotate input nowMs store = .ok next) :
    ∃ row key, store.records input.keyId = some row ∧ row.status = .active ∧
      next = store.setRecord input.keyId { row with
        verifierGeneration := input.currentGeneration
        verifierDigest := ⟨key, row.keyId, input.secret⟩
        lifecycleRevision := row.lifecycleRevision + 1 } := by
  obtain ⟨⟨row, scopes⟩, read, ok⟩ := bind_eq_ok.mp ok
  obtain ⟨_, -, ok⟩ := bind_eq_ok.mp ok
  obtain ⟨key, -, ok⟩ := bind_eq_ok.mp ok
  obtain ⟨_, -, ok⟩ := bind_eq_ok.mp ok
  obtain ⟨_, current, ok⟩ := bind_eq_ok.mp ok
  cases ok
  exact ⟨row, key, (scopedRecord_ok read).1, (require_eq_ok.mp current).1, rfl⟩

theorem revoke_ok (ok : revoke input nowMs store = .ok next) :
    ∃ row, store.records input.keyId = some row ∧ row.status = .active ∧
      next = { store.setRecord input.keyId { row with
          status := .revoked
          lifecycleRevision := row.lifecycleRevision + 1 } with
        effectLeases := store.effectLeases.filter (·.keyId ≠ input.keyId) } := by
  obtain ⟨⟨row, scopes⟩, read, ok⟩ := bind_eq_ok.mp ok
  obtain ⟨_, -, ok⟩ := bind_eq_ok.mp ok
  obtain ⟨_, -, ok⟩ := bind_eq_ok.mp ok
  obtain ⟨_, -, ok⟩ := bind_eq_ok.mp ok
  obtain ⟨_, current, ok⟩ := bind_eq_ok.mp ok
  cases ok
  exact ⟨row, (scopedRecord_ok read).1, (require_eq_ok.mp current).1, rfl⟩

structure RevokeInput.Fits (input : RevokeInput) (row : ApiKeyRecord) (scopes : IssuerScopes) :
    Prop where
  expected : input.expectedLifecycleRevision = row.lifecycleRevision
  reasonCode : isReasonCode input.reasonCode = true
  isScopes : input.scopes = .ok scopes
  isCurrent : input.currentScopes = .ok scopes
  eligible : row.organizationNodeId ∈ scopes.eligibleNodeIds

theorem revoke_of_active (present : store.records input.keyId = some row)
    (fits : input.Fits row scopes) (active : row.status = .active)
    (unexpired : nowMs < row.expiresAt) (unused : row.useCount < row.policy.limits.maxUses) :
    revoke input nowMs store = .ok { store.setRecord input.keyId { row with
        status := .revoked
        lifecycleRevision := row.lifecycleRevision + 1 } with
      effectLeases := store.effectLeases.filter (·.keyId ≠ input.keyId) } := by
  have read : scopedRecord store input.keyId input.scopes = .ok (row, scopes) := by
    refine bind_eq_ok.mpr ⟨scopes, fits.isScopes, ?_⟩
    rw [present]
    exact bind_eq_ok.mpr ⟨(), require_eq_ok.mpr fits.eligible, rfl⟩
  have projected := recordFromRow_active.mpr ⟨active, unexpired, unused⟩
  refine bind_eq_ok.mpr ⟨_, read, ?_⟩
  refine bind_eq_ok.mpr ⟨(), require_eq_ok.mpr fits.reasonCode, ?_⟩
  refine bind_eq_ok.mpr ⟨(), require_eq_ok.mpr projected, ?_⟩
  refine bind_eq_ok.mpr ⟨(), ?_, ?_⟩
  · refine bind_eq_ok.mpr ⟨scopes, fits.isCurrent, ?_⟩
    refine bind_eq_ok.mpr ⟨(), require_eq_ok.mpr rfl, ?_⟩
    exact assertApiKeyIssuerTarget_eq_ok.mpr fits.eligible
  · exact bind_eq_ok.mpr ⟨(), require_eq_ok.mpr ⟨active, fits.expected.symm⟩, rfl⟩

theorem requireLineage_ok (ok : requireLineage record snapshot = .ok answer) :
    organizationLineageDigest record.organizationNodeId snapshot.nodesById =
      .ok record.organizationLineageDigest := by
  obtain ⟨_, -, ok⟩ := bind_eq_ok.mp ok
  obtain ⟨lineage, isLineage, ok⟩ := bind_eq_ok.mp ok
  rw [isLineage, require_eq_ok.mp ok]

variable {input : AuthenticateInput}

theorem verifyCredential_ok (ok : verifyCredential input store = .ok row) :
    ∃ keyId secret, input.credential = some (keyId, secret) ∧ store.records keyId = some row ∧
      row.verifierDigest.keyId = keyId ∧ row.verifierDigest.secret = secret := by
  unfold verifyCredential at ok
  split at ok
  next => cases ok
  next keyId secret credential =>
    split at ok
    next => cases ok
    next found present =>
      obtain ⟨key, -, ok⟩ := bind_eq_ok.mp ok
      obtain ⟨_, same, ok⟩ := bind_eq_ok.mp ok
      cases ok
      have same := require_eq_ok.mp same
      exact ⟨keyId, secret, credential, present, by rw [← same], by rw [← same]⟩

theorem authenticateRuntime_ok
    (ok : (authenticateRuntime input nowMs store).1 = .ok authorization) :
    ∃ row, verifyCredential input store = .ok row ∧ (recordFromRow row nowMs).status = .active := by
  unfold authenticateRuntime at ok
  split at ok
  next => cases ok
  next row verified =>
    dsimp only at ok
    split_ifs at ok with active
    exact ⟨row, verified, active⟩

theorem authenticateRuntime_store (input : AuthenticateInput) (nowMs : Nat) (store : Store) :
    (authenticateRuntime input nowMs store).2 = store ∨
    ∃ keyId row, store.records keyId = some row ∧ row.status = .active ∧
      (recordFromRow row nowMs).status ≠ .active ∧
      (authenticateRuntime input nowMs store).2 = store.setRecord row.keyId { row with
        status := (recordFromRow row nowMs).status
        lifecycleRevision := row.lifecycleRevision + 1 } := by
  unfold authenticateRuntime
  split
  next => exact .inl rfl
  next row verified =>
    dsimp only
    split_ifs with active
    · exact .inl rfl
    · unfold settleStatus
      split_ifs with settles
      · obtain ⟨keyId, -, -, present, -, -⟩ := verifyCredential_ok verified
        exact .inr ⟨keyId, row, present, settles.1, active, rfl⟩
      · exact .inl rfl

theorem assertAuthorizationCurrent_ok
    (ok : assertAuthorizationCurrent authorization snapshot nowMs store = .ok record) :
    store.records authorization.keyId = some record ∧ record.status = .active ∧
      nowMs < record.expiresAt ∧ record.useCount < record.policy.limits.maxUses ∧
      record.lifecycleRevision = authorization.lifecycleRevision ∧
      organizationLineageDigest record.organizationNodeId snapshot.nodesById =
        .ok record.organizationLineageDigest := by
  unfold assertAuthorizationCurrent at ok
  split at ok
  next => cases ok
  next row present =>
    obtain ⟨_, active, ok⟩ := bind_eq_ok.mp ok
    obtain ⟨_, current, ok⟩ := bind_eq_ok.mp ok
    obtain ⟨_, lineage, ok⟩ := bind_eq_ok.mp ok
    cases ok
    rw [require_eq_ok] at active
    have facts := recordFromRow_active.mp active
    have same : recordFromRow row nowMs = row := by
      rw [recordFromRow_eq, active, ← facts.1]
    rw [same] at current lineage ⊢
    exact ⟨present, facts.1, facts.2.1, facts.2.2, (require_eq_ok.mp current).1,
      requireLineage_ok lineage⟩

theorem authorizeOperation_ok
    (ok : authorizeOperation env authorization operation snapshot nowMs store = .ok answer) :
    ∃ record, store.records authorization.keyId = some record ∧ record.status = .active ∧
      nowMs < record.expiresAt ∧ record.useCount < record.policy.limits.maxUses ∧
      record.lifecycleRevision = authorization.lifecycleRevision := by
  obtain ⟨_, -, ok⟩ := bind_eq_ok.mp ok
  obtain ⟨record, current, -⟩ := bind_eq_ok.mp ok
  obtain ⟨present, active, unexpired, uses, revision, -⟩ := assertAuthorizationCurrent_ok current
  exact ⟨record, present, active, unexpired, uses, revision⟩

end LicoMesh.ApiKeys

import LicoMesh.ApiKeys.Answers
import LicoMesh.Library.Path

namespace LicoMesh.ApiKeys

open Library Transaction

/-- A successful reservation, with the organization it was made in and how often the key had been
rotated or revoked before it. -/
structure Reservation where
  keyId : String
  leaseId : Nat
  timestamp : Nat
  expiresAt : Nat
  lifecycleRevision : Nat
  snapshot : OrganizationSnapshot
  changes : Nat
  released : Bool := false

structure World where
  store : Store := {}
  clock : Nat := 0
  reservations : List Reservation := []
  issued : String → Option String := fun _ => none
  /-- How often a key has been rotated or revoked. -/
  changes : String → Nat := fun _ => 0

inductive Command
  | create (input : CreateInput)
  | rotate (input : RotateInput)
  | revoke (input : RevokeInput)
  | authenticateRuntime (input : AuthenticateInput)
  | authorizeOperation (authorization : Authorization) (operation : String)
      (snapshot : OrganizationSnapshot)
  | reserveEffect (authorization : Authorization) (operation : String)
      (snapshot : OrganizationSnapshot)
  | revalidateEffect (keyId : String) (leaseId : Nat) (snapshot : OrganizationSnapshot)
  | releaseEffect (keyId : String) (leaseId : Nat)

/-- A command with how far the clock moves before its first reading and between its readings. -/
structure Call where
  command : Command
  wait : Nat := 0
  pause : Nat := 0

def Call.timestamp (call : Call) (w : World) : Nat := w.clock + call.wait

def Call.nowMs (call : Call) (w : World) : Nat := w.clock + call.wait + call.pause

theorem Call.timestamp_le_nowMs (call : Call) (w : World) : call.timestamp w ≤ call.nowMs w :=
  Nat.le_add_right _ _

theorem Call.clock_le_timestamp (call : Call) (w : World) : w.clock ≤ call.timestamp w :=
  Nat.le_add_right _ _

def bump (changes : String → Nat) (keyId : String) : String → Nat :=
  Function.update changes keyId (changes keyId + 1)

def release (reservations : List Reservation) (keyId : String) (leaseId : Nat) : List Reservation :=
  reservations.map fun r =>
    if r.keyId = keyId ∧ r.leaseId = leaseId then { r with released := true } else r

def World.apply (env : WorkerEnv) (w : World) (call : Call) : World :=
  let timestamp := call.timestamp w
  let later := { w with clock := call.nowMs w }
  match call.command with
  | .create input =>
    match create input timestamp w.store with
    | .error _ => later
    | .ok store =>
      { later with
        store := store
        issued := Function.update w.issued input.keyId (some input.secret) }
  | .rotate input =>
    match rotate input timestamp w.store with
    | .error _ => later
    | .ok store =>
      { later with
        store := store
        issued := Function.update w.issued input.keyId (some input.secret)
        changes := bump w.changes input.keyId }
  | .revoke input =>
    match revoke input timestamp w.store with
    | .error _ => later
    | .ok store => { later with store := store, changes := bump w.changes input.keyId }
  | .authenticateRuntime input =>
    { later with store := (authenticateRuntime input timestamp w.store).2 }
  | .authorizeOperation _ _ _ => later
  | .reserveEffect authorization operation snapshot =>
    match reserveEffect env authorization operation snapshot timestamp (call.nowMs w) w.store with
    | .error _ => later
    | .ok (lease, store) =>
      { later with
        store := store
        reservations := w.reservations ++ [{
          keyId := lease.keyId
          leaseId := lease.leaseId
          timestamp := timestamp
          expiresAt := lease.expiresAt
          lifecycleRevision := lease.lifecycleRevision
          snapshot := snapshot
          changes := w.changes lease.keyId }] }
  | .revalidateEffect _ _ _ => later
  | .releaseEffect keyId leaseId =>
    { later with
      store := releaseEffect keyId leaseId w.store
      reservations := release w.reservations keyId leaseId }

def World.run (env : WorkerEnv) (calls : List Call) : World := runAll (.apply env) {} calls

def cleanedStore (store : Store) (keyId : String) (timestamp : Nat) : Store :=
  cleanupKey (cleanupExpiredEphemeralState store timestamp) keyId timestamp

def windowStart (limits : PolicyLimits) (timestamp : Nat) : Nat :=
  timestamp / limits.windowMs * limits.windowMs

structure Admitted (w : World) (row : ApiKeyRecord) (snapshot : OrganizationSnapshot)
    (timestamp : Nat) : Prop where
  present : w.store.records row.keyId = some row
  active : row.status = .active
  unexpired : timestamp < row.expiresAt
  uses : row.useCount < row.policy.limits.maxUses
  lineage : organizationLineageDigest row.organizationNodeId snapshot.nodesById =
    .ok row.organizationLineageDigest
  requests : requestCount (cleanedStore w.store row.keyId timestamp).usageWindows row.keyId
    (windowStart row.policy.limits timestamp) < row.policy.limits.requestsPerWindow
  concurrent : ((cleanedStore w.store row.keyId timestamp).effectLeases.filter fun lease =>
    lease.keyId = row.keyId ∧ timestamp < lease.expiresAt).length <
      row.policy.limits.maxConcurrentEffects

structure Moves (w : World) (row next : ApiKeyRecord) (issued : String → Option String)
    (changes : String → Nat) (leases : List EffectLease) : Prop where
  present : w.store.records row.keyId = some row
  digest : next.verifierDigest.keyId = row.verifierDigest.keyId ∨
    next.verifierDigest.keyId = row.keyId
  carries : next = { row with
    verifierGeneration := next.verifierGeneration
    verifierDigest := next.verifierDigest
    status := next.status
    lifecycleRevision := row.lifecycleRevision + 1 }
  wasActive : row.status = .active
  exhausted : next.status = .exhausted → row.policy.limits.maxUses ≤ row.useCount
  issued : issued = Function.update w.issued row.keyId (some next.verifierDigest.secret) ∨
    issued = w.issued ∧ next.verifierDigest = row.verifierDigest
  changes : changes = w.changes ∨ changes = bump w.changes row.keyId
  leases : leases = w.store.effectLeases ∨
    next.status = .revoked ∧ leases = w.store.effectLeases.filter (·.keyId ≠ row.keyId)

inductive Change (env : WorkerEnv) (w : World) (timestamp nowMs : Nat) : World → Prop
  | silent : Change env w timestamp nowMs { w with clock := nowMs }
  | created (record : ApiKeyRecord) (absent : w.store.records record.keyId = none)
      (digest : record.verifierDigest.keyId = record.keyId) (active : record.status = .active)
      (unused : record.useCount = 0) : Change env w timestamp nowMs
        { w with
          clock := nowMs
          store := { w.store.setRecord record.keyId record with drawn := w.store.drawn + 1 }
          issued := Function.update w.issued record.keyId (some record.verifierDigest.secret) }
  | moved (row next : ApiKeyRecord) (issued : String → Option String) (changes : String → Nat)
      (leases : List EffectLease) (moves : Moves w row next issued changes leases) :
      Change env w timestamp nowMs
        { w with
          clock := nowMs
          store := { w.store.setRecord row.keyId next with effectLeases := leases }
          issued := issued
          changes := changes }
  | reserved (row : ApiKeyRecord) (snapshot : OrganizationSnapshot)
      (admitted : Admitted w row snapshot timestamp) : Change env w timestamp nowMs
        { w with
          clock := nowMs
          store := { (cleanedStore w.store row.keyId timestamp).setRecord row.keyId { row with
              useCount := row.useCount + 1
              status := if row.policy.limits.maxUses ≤ row.useCount + 1 then .exhausted
                else row.status } with
            usageWindows := countRequest (cleanedStore w.store row.keyId timestamp).usageWindows
              row.keyId (windowStart row.policy.limits timestamp) row.policy.limits.windowMs
            effectLeases := (cleanedStore w.store row.keyId timestamp).effectLeases ++ [{
              keyId := row.keyId
              leaseId := w.store.drawn
              lifecycleRevision := row.lifecycleRevision
              policyFingerprint := row.policy
              expiresAt := timestamp + env.effectLeaseTtlMs }]
            drawn := w.store.drawn + 1 }
          reservations := w.reservations ++ [{
            keyId := row.keyId
            leaseId := w.store.drawn
            timestamp := timestamp
            expiresAt := timestamp + env.effectLeaseTtlMs
            lifecycleRevision := row.lifecycleRevision
            snapshot := snapshot
            changes := w.changes row.keyId }] }
  | released (keyId : String) (leaseId : Nat) : Change env w timestamp nowMs
        { w with
          clock := nowMs
          store := releaseEffect keyId leaseId w.store
          reservations := release w.reservations keyId leaseId }

variable {env : WorkerEnv} {w : World}

def World.Keyed (w : World) : Prop :=
  ∀ keyId row, w.store.records keyId = some row → row.keyId = keyId

theorem reserveEffect_ok
    (ok : reserveEffect env authorization operation snapshot timestamp nowMs w.store =
      .ok (lease, next)) : ∃ row, w.store.records authorization.keyId = some row ∧
      row.lifecycleRevision = authorization.lifecycleRevision ∧
      (w.Keyed → Admitted w row snapshot timestamp) ∧
      lease = ⟨row.keyId, w.store.drawn, row.lifecycleRevision, row.policy,
        timestamp + env.effectLeaseTtlMs⟩ ∧
      next = { (cleanedStore w.store row.keyId timestamp).setRecord row.keyId { row with
          useCount := row.useCount + 1
          status := if row.policy.limits.maxUses ≤ row.useCount + 1 then .exhausted
            else row.status } with
        usageWindows := countRequest (cleanedStore w.store row.keyId timestamp).usageWindows
          row.keyId (windowStart row.policy.limits timestamp) row.policy.limits.windowMs
        effectLeases := (cleanedStore w.store row.keyId timestamp).effectLeases ++ [lease]
        drawn := w.store.drawn + 1 } := by
  obtain ⟨_, -, ok⟩ := bind_eq_ok.mp ok
  obtain ⟨row, current, ok⟩ := bind_eq_ok.mp ok
  obtain ⟨_, requests, ok⟩ := bind_eq_ok.mp ok
  obtain ⟨_, concurrent, ok⟩ := bind_eq_ok.mp ok
  obtain ⟨_, limits, ok⟩ := bind_eq_ok.mp ok
  cases ok
  obtain ⟨present, active, -, -, revision, lineage⟩ := assertAuthorizationCurrent_ok current
  rw [require_eq_ok] at requests concurrent limits
  refine ⟨row, present, revision, fun keyed => ?_, rfl, rfl⟩
  exact {
    present := by rw [keyed _ _ present]; exact present
    active := active
    unexpired := limits.2.2
    uses := limits.2.1
    lineage := lineage
    requests := requests
    concurrent := concurrent }

theorem World.apply_change (env : WorkerEnv) (keyed : w.Keyed) (call : Call) :
    Change env w (call.timestamp w) (call.nowMs w) (w.apply env call) := by
  unfold World.apply
  cases call.command with
  | create input =>
    dsimp only
    split
    next => exact .silent
    next store created =>
      obtain ⟨record, sameKey, absent, digest, secret, active, unused, rfl⟩ := create_ok created
      have change : Change env w (call.timestamp w) (call.nowMs w) _ :=
        .created record (sameKey ▸ absent) (digest.trans sameKey.symm) active unused
      rw [sameKey, secret] at change
      exact change
  | rotate input =>
    dsimp only
    split
    next => exact .silent
    next store rotated =>
      obtain ⟨row, key, present, active, rfl⟩ := rotate_ok rotated
      have sameKey := keyed _ _ present
      rw [← sameKey] at present ⊢
      exact .moved row _ _ _ w.store.effectLeases {
        present := present
        digest := .inr rfl
        carries := rfl
        wasActive := active
        exhausted := fun exhausted => nomatch active.symm.trans exhausted
        issued := .inl rfl
        changes := .inr rfl
        leases := .inl rfl }
  | revoke input =>
    dsimp only
    split
    next => exact .silent
    next store revoked =>
      obtain ⟨row, present, active, rfl⟩ := revoke_ok revoked
      have sameKey := keyed _ _ present
      rw [← sameKey] at present ⊢
      exact .moved row _ w.issued _ _ {
        present := present
        digest := .inl rfl
        carries := rfl
        wasActive := active
        exhausted := nofun
        issued := .inr ⟨rfl, rfl⟩
        changes := .inr rfl
        leases := .inr ⟨rfl, rfl⟩ }
  | authenticateRuntime input =>
    dsimp only
    rcases authenticateRuntime_store input (call.timestamp w) w.store with
      same | ⟨keyId, row, present, active, inactive, settled⟩
    · rw [same]
      exact .silent
    · rw [settled]
      have sameKey := keyed _ _ present
      subst sameKey
      exact .moved row _ w.issued w.changes w.store.effectLeases {
        present := present
        digest := .inl rfl
        carries := rfl
        wasActive := active
        exhausted := recordFromRow_exhausted active
        issued := .inr ⟨rfl, rfl⟩
        changes := .inl rfl
        leases := .inl rfl }
  | authorizeOperation => exact .silent
  | reserveEffect authorization operation snapshot =>
    dsimp only
    split
    next => exact .silent
    next lease store reserved =>
      obtain ⟨row, -, -, admitted, rfl, rfl⟩ := reserveEffect_ok reserved
      exact .reserved row snapshot (admitted keyed)
  | revalidateEffect => exact .silent
  | releaseEffect keyId leaseId => exact .released keyId leaseId

end LicoMesh.ApiKeys

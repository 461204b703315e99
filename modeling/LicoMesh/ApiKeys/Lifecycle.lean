import LicoMesh.ApiKeys.Reservations

namespace LicoMesh.ApiKeys

open Library Transaction

variable {env : WorkerEnv} {w : World}

theorem Sound.change (sound : Sound w) (change : Change env w timestamp nowMs next)
    (atTimestamp : w.clock ≤ timestamp) (atNow : timestamp ≤ nowMs) : Sound next := by
  have toNow := Nat.le_trans atTimestamp atNow
  cases change with
  | silent => exact sound.later toNow
  | created record absent digest active unused =>
    exact (sound.created absent digest active unused).later toNow
  | moved row next issued changes leases moves => exact (sound.moved moves).later toNow
  | reserved row snapshot admitted =>
    have isAdmitted : Admitted { w with clock := timestamp } row snapshot timestamp :=
      { admitted with }
    exact ((sound.later atTimestamp).reserved env isAdmitted).later atNow
  | released keyId leaseId => exact (sound.released keyId leaseId).later toNow

theorem Sound.apply (sound : Sound w) (env : WorkerEnv) (call : Call) : Sound (w.apply env call) :=
  sound.change (World.apply_change env sound.keyed call) (call.clock_le_timestamp w)
    (call.timestamp_le_nowMs w)

theorem run_sound (env : WorkerEnv) (calls : List Call) : Sound (.run env calls) :=
  runAll_invariant (fun _ call sound => sound.apply env call) sound_initial calls

structure Revalidated (w : World) (keyId : String) (leaseId : Nat)
    (snapshot : OrganizationSnapshot) (timestamp nowMs : Nat) (r : Reservation)
    (row : ApiKeyRecord) : Prop where
  isReservation : r ∈ w.reservations
  sameKey : r.keyId = keyId
  sameLease : r.leaseId = leaseId
  unexpired : timestamp < r.expiresAt
  unreleased : r.released = false
  present : w.store.records keyId = some row
  unchanged : w.changes keyId = r.changes
  unrevoked : row.status ≠ .revoked
  ownExpiry : row.useCount < row.policy.limits.maxUses → nowMs < row.expiresAt
  lineage : ∃ lineage,
    organizationLineageDigest row.organizationNodeId r.snapshot.nodesById = .ok lineage ∧
    organizationLineageDigest row.organizationNodeId snapshot.nodesById = .ok lineage

theorem Sound.revalidateEffect (sound : Sound w)
    (ok : revalidateEffect keyId leaseId snapshot timestamp nowMs w.store = .ok ()) :
    ∃ r row, Revalidated w keyId leaseId snapshot timestamp nowMs r row := by
  unfold ApiKeys.revalidateEffect at ok
  split at ok
  next => cases ok
  next lease found =>
    obtain ⟨_, unexpired, ok⟩ := bind_eq_ok.mp ok
    have sameLease := List.find?_some found
    obtain ⟨rfl, rfl⟩ := of_decide_eq_true sameLease
    split at ok
    next => cases ok
    next row present =>
      obtain ⟨_, standing, ok⟩ := bind_eq_ok.mp ok
      obtain ⟨status, unrevoked, isUnexpired, revision, -⟩ := require_eq_ok.mp standing
      have lineage := requireLineage_ok ok
      rw [recordFromRow_eq] at revision lineage
      obtain ⟨r, isIn, of⟩ := sound.leases lease (List.mem_of_find?_eq_some found)
      obtain ⟨owner, ownerPresent, reservation⟩ := sound.reservations r isIn
      rw [of.keyId] at ownerPresent
      obtain rfl : owner = row := Option.some.inj (ownerPresent.symm.trans present)
      have before := sound.rows lease.keyId owner present
      refine ⟨r, owner, isIn, of.keyId, of.leaseId, ?_, of.unreleased, present, ?_, unrevoked, ?_,
        _, reservation.lineage, lineage⟩
      · rw [of.expiresAt]
        exact require_eq_ok.mp unexpired
      · have revised := reservation.revision
        have counted := reservation.changes
        rw [of.lifecycleRevision, of.keyId] at revised
        rw [of.keyId] at counted
        dsimp only at revision
        omega
      · intro unused
        have active : owner.status = .active := by
          cases isStatus : owner.status with
          | active => rfl
          | revoked => exact absurd isStatus unrevoked
          | expired => exact absurd isStatus isUnexpired
          | exhausted => exact absurd (before.exhausted isStatus) (Nat.not_le_of_lt unused)
        refine Nat.lt_of_not_le fun lapsed => ?_
        have projected : (recordFromRow owner nowMs).status = .expired := by
          rw [recordFromRow, if_pos ⟨active, lapsed⟩]
        rw [projected] at status
        exact status.elim nofun nofun

structure Lifecycle (env : WorkerEnv) (w : World) : Prop where
  uses : ∀ keyId row, w.store.records keyId = some row →
    (w.ofKey keyId).length ≤ row.policy.limits.maxUses
  requests : ∀ keyId row, w.store.records keyId = some row → ∀ start,
    (w.requests keyId row.policy.limits start).length ≤ row.policy.limits.requestsPerWindow
  concurrent : ∀ keyId row, w.store.records keyId = some row →
    (w.live keyId).length ≤ row.policy.limits.maxConcurrentEffects
  known : ∀ r ∈ w.reservations, ∃ row, w.store.records r.keyId = some row
  authenticates : ∀ input nowMs authorization,
    (authenticateRuntime input nowMs w.store).1 = .ok authorization →
    ∃ keyId secret row, input.credential = some (keyId, secret) ∧ w.issued keyId = some secret ∧
      w.store.records keyId = some row ∧ row.status = .active ∧ nowMs < row.expiresAt
  authorizes : ∀ authorization operation snapshot nowMs answer,
    authorizeOperation env authorization operation snapshot nowMs w.store = .ok answer →
    ∃ row, w.store.records authorization.keyId = some row ∧
      row.lifecycleRevision = authorization.lifecycleRevision
  reserves : ∀ authorization operation snapshot timestamp nowMs answer,
    reserveEffect env authorization operation snapshot timestamp nowMs w.store = .ok answer →
    ∃ row, w.store.records authorization.keyId = some row ∧
      row.lifecycleRevision = authorization.lifecycleRevision
  revalidates : ∀ keyId leaseId snapshot timestamp nowMs,
    revalidateEffect keyId leaseId snapshot timestamp nowMs w.store = .ok () →
    ∃ r row, Revalidated w keyId leaseId snapshot timestamp nowMs r row
  revokes : ∀ keyId row nowMs, w.store.records keyId = some row → row.status ≠ .revoked →
    row.status ≠ .expired → nowMs < row.expiresAt → row.useCount < row.policy.limits.maxUses →
    ∀ input scopes, input.keyId = keyId → input.Fits row scopes →
      ∃ next revoked, revoke input nowMs w.store = .ok next ∧
        next.records keyId = some revoked ∧ revoked.status = .revoked

/-- Over every run the counts stay within the limits of the policy, and every command that is
accepted has found the key as it stands. -/
theorem run_lifecycle (env : WorkerEnv) (calls : List Call) :
    Lifecycle env (World.run env calls) := by
  have sound := run_sound env calls
  exact {
    uses := fun keyId row present => by
      have before := sound.rows keyId row present
      rw [before.useCount]
      exact before.uses
    requests := fun keyId row present => (sound.rows keyId row present).requests
    concurrent := fun keyId row present => (sound.rows keyId row present).concurrent
    known := fun r isIn =>
      have ⟨row, present, _⟩ := sound.reservations r isIn
      ⟨row, present⟩
    authenticates := fun input nowMs authorization ok => by
      obtain ⟨row, verified, active⟩ := authenticateRuntime_ok ok
      obtain ⟨keyId, secret, credential, present, -, sameSecret⟩ := verifyCredential_ok verified
      have facts := recordFromRow_active.mp active
      refine ⟨keyId, secret, row, credential, ?_, present, facts.1, facts.2.1⟩
      rw [← sameSecret]
      exact (sound.rows keyId row present).issued
    authorizes := fun authorization operation snapshot nowMs answer ok => by
      obtain ⟨row, present, -, -, -, revision⟩ := authorizeOperation_ok ok
      exact ⟨row, present, revision⟩
    reserves := fun authorization operation snapshot timestamp nowMs answer ok => by
      obtain ⟨row, present, revision, -⟩ := reserveEffect_ok ok
      exact ⟨row, present, revision⟩
    revalidates := fun keyId leaseId snapshot timestamp nowMs ok => sound.revalidateEffect ok
    revokes := fun keyId row nowMs present unrevoked isUnexpired unexpired unused input scopes
        sameKey fits => by
      subst sameKey
      have active : row.status = .active := by
        cases isStatus : row.status with
        | active => rfl
        | revoked => exact absurd isStatus unrevoked
        | expired => exact absurd isStatus isUnexpired
        | exhausted =>
          have lapsed := (sound.rows _ row present).exhausted isStatus
          exact absurd lapsed (Nat.not_le_of_lt unused)
      exact ⟨_, _, revoke_of_active present fits active unexpired unused,
        Store.setRecord_self .., rfl⟩ }

/-- Over every run the stored counts and leases are those of the effects that were reserved, and a
key is exhausted exactly when it has no use left. -/
theorem run_counts (env : WorkerEnv) (calls : List Call) :
    let w := World.run env calls
    (∀ keyId row, w.store.records keyId = some row → (w.ofKey keyId).length = row.useCount ∧
      (row.status = .active → row.useCount < row.policy.limits.maxUses) ∧
      (row.status = .exhausted → row.useCount = row.policy.limits.maxUses)) ∧
    (∀ window ∈ w.store.usageWindows, ∃ row, w.store.records window.keyId = some row ∧
      WindowSound w row window) ∧
    (∀ r ∈ w.reservations, ∃ row, w.store.records r.keyId = some row ∧ ReservationSound w row r) ∧
    (∀ lease ∈ w.store.effectLeases, ∃ r ∈ w.reservations, LeaseOf r lease) ∧
    (w.reservations.map (·.leaseId)).Nodup := by
  have sound := run_sound env calls
  refine ⟨fun keyId row present => ?_, sound.windows, sound.reservations, sound.leases,
    sound.leaseIds⟩
  have own := sound.rows keyId row present
  exact ⟨own.useCount, own.active, fun spent => Nat.le_antisymm own.uses (own.exhausted spent)⟩

def sampleEnv : WorkerEnv where
  requireAllowedOperation := fun _ _ => .ok ()

def sampleSnapshot : OrganizationSnapshot := ⟨1, [⟨"root", ""⟩]⟩

def sampleScopes : IssuerScopes := ⟨["root"], 1, 1, ""⟩

def samplePolicy : Policy where
  serverAudience := "mesh"
  targetIds := []
  connectorPackageIds := []
  allowedPublicKeyFingerprints := none
  limits := ⟨1, 1, 1, 1, by decide, by decide, by decide, by decide⟩
  rules := ""

def sampleRecord : ApiKeyRecord where
  keyId := "key"
  verifierGeneration := "g1"
  verifierDigest := ⟨"0123456789abcdef0123456789abcdef", "key", "secret"⟩
  workloadPrincipalId := 0
  organizationNodeId := "root"
  organizationLineageDigest := ["root"]
  organizationRevisionAtIssue := 1
  policy := samplePolicy
  expiresAt := 1000

/-- A key for one use is created and its use reserved. -/
def sampleCalls : List Call := [ ⟨.create {
    organizationNodeId := "root"
    expiresAt := some 1000
    policy := .ok samplePolicy
    scopes := .ok sampleScopes
    currentScopes := .ok sampleScopes
    snapshot := sampleSnapshot
    keyId := "key"
    secret := "secret"
    currentGeneration := "g1"
    verifierKeys := fun _ => some "0123456789abcdef0123456789abcdef" }, 0, 0⟩,
  ⟨.reserveEffect (authorizationOf sampleRecord) "read" sampleSnapshot, 0, 0⟩]

/-- A used up key is neither expired nor revoked, and no command revokes it. -/
theorem used_up_key_not_revocable :
    let w := World.run sampleEnv sampleCalls
    ∃ row, w.store.records "key" = some row ∧ row.status ≠ .revoked ∧ row.status ≠ .expired ∧
      w.clock < row.expiresAt ∧
      ∀ input nowMs next, input.keyId = "key" → revoke input nowMs w.store ≠ .ok next := by
  intro w
  have present : w.store.records "key" = some { sampleRecord with
      useCount := 1, status := .exhausted } := by
    decide +kernel
  refine ⟨_, present, by decide, by decide, by decide +kernel, ?_⟩
  intro input nowMs next sameKey ok
  obtain ⟨row, found, active, -⟩ := revoke_ok ok
  rw [sameKey, present] at found
  rw [← Option.some.inj found] at active
  exact nomatch active

end LicoMesh.ApiKeys

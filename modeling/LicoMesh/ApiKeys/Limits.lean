import LicoMesh.ApiKeys.Runs
import Mathlib.Data.List.Perm.Subperm

namespace LicoMesh.ApiKeys

open Function Store

/-! The invariant of a run: the counts of a key's row, its usage windows and its leases are those
of the reservations made for it. -/

variable {record next row : ApiKeyRecord} {issued : String → Option String}
  {leases : List EffectLease} {changes : String → Nat} {w : World} {keyId : String}

def World.ofKey (w : World) (keyId : String) : List Reservation :=
  w.reservations.filter (·.keyId = keyId)

/-- The reservations of a key in the aligned window that begins at `start`. -/
def World.requests (w : World) (keyId : String) (limits : PolicyLimits) (start : Nat) :
    List Reservation :=
  w.reservations.filter fun r => r.keyId = keyId ∧ windowStart limits r.timestamp = start

def World.live (w : World) (keyId : String) : List Reservation :=
  w.reservations.filter fun r => r.keyId = keyId ∧ r.released = false ∧ w.clock < r.expiresAt

structure RowSound (w : World) (keyId : String) (row : ApiKeyRecord) : Prop where
  keyed : row.keyId = keyId
  digest : row.verifierDigest.keyId = keyId
  issued : w.issued keyId = some row.verifierDigest.secret
  useCount : (w.ofKey keyId).length = row.useCount
  uses : row.useCount ≤ row.policy.limits.maxUses
  active : row.status = .active → row.useCount < row.policy.limits.maxUses
  exhausted : row.status = .exhausted → row.policy.limits.maxUses ≤ row.useCount
  requests : ∀ start, (w.requests keyId row.policy.limits start).length ≤
    row.policy.limits.requestsPerWindow
  concurrent : (w.live keyId).length ≤ row.policy.limits.maxConcurrentEffects

structure ReservationSound (w : World) (row : ApiKeyRecord) (r : Reservation) : Prop where
  timely : r.timestamp ≤ w.clock
  drawn : r.leaseId < w.store.drawn
  changes : r.changes ≤ w.changes r.keyId
  revision : r.lifecycleRevision + w.changes r.keyId ≤ row.lifecycleRevision + r.changes
  lineage : organizationLineageDigest row.organizationNodeId r.snapshot.nodesById =
    .ok row.organizationLineageDigest
  lease : r.released = false → w.clock < r.expiresAt → row.status ≠ .revoked →
    ∃ lease ∈ w.store.effectLeases,
      lease.keyId = r.keyId ∧ lease.leaseId = r.leaseId ∧ lease.expiresAt = r.expiresAt
  window : w.clock < windowStart row.policy.limits r.timestamp + row.policy.limits.windowMs * 2 →
    ∃ window ∈ w.store.usageWindows, window.keyId = r.keyId ∧
      window.windowStart = windowStart row.policy.limits r.timestamp

structure WindowSound (w : World) (row : ApiKeyRecord) (window : UsageWindow) : Prop where
  requestCount : (w.requests window.keyId row.policy.limits window.windowStart).length =
    window.requestCount
  expiresAt : window.expiresAt = window.windowStart + row.policy.limits.windowMs * 2

structure LeaseOf (r : Reservation) (lease : EffectLease) : Prop where
  keyId : r.keyId = lease.keyId
  leaseId : r.leaseId = lease.leaseId
  expiresAt : r.expiresAt = lease.expiresAt
  lifecycleRevision : r.lifecycleRevision = lease.lifecycleRevision
  unreleased : r.released = false

structure Sound (w : World) : Prop where
  rows : ∀ keyId row, w.store.records keyId = some row → RowSound w keyId row
  reservations : ∀ r ∈ w.reservations, ∃ row, w.store.records r.keyId = some row ∧
    ReservationSound w row r
  windows : ∀ window ∈ w.store.usageWindows, ∃ row, w.store.records window.keyId = some row ∧
    WindowSound w row window
  leases : ∀ lease ∈ w.store.effectLeases, ∃ r ∈ w.reservations, LeaseOf r lease
  leaseIds : (w.reservations.map (·.leaseId)).Nodup

theorem Sound.keyed (sound : Sound w) : w.Keyed :=
  fun keyId row present => (sound.rows keyId row present).keyed

theorem sound_initial : Sound {} where
  rows := nofun
  reservations := nofun
  windows := nofun
  leases := nofun
  leaseIds := List.nodup_nil

theorem World.live_later (after : w.clock ≤ later) :
    List.Sublist (({ w with clock := later } : World).live keyId) (w.live keyId) := by
  refine List.monotone_filter_right _ fun r isLive => ?_
  simp only [decide_eq_true_eq] at isLive ⊢
  exact ⟨isLive.1, isLive.2.1, by omega⟩

theorem Sound.later (sound : Sound w) {later : Nat} (after : w.clock ≤ later) :
    Sound { w with clock := later } where
  rows := fun keyId row present =>
    have before := sound.rows keyId row present
    { before with
      concurrent := Nat.le_trans (World.live_later after).length_le before.concurrent }
  reservations := fun r isIn => by
    obtain ⟨row, present, before⟩ := sound.reservations r isIn
    exact ⟨row, present, { before with
      timely := Nat.le_trans before.timely after
      lease := fun unreleased unexpired =>
        before.lease unreleased (Nat.lt_of_le_of_lt after unexpired)
      window := fun unexpired => before.window (Nat.lt_of_le_of_lt after unexpired) }⟩
  windows := fun window isIn => by
    obtain ⟨row, present, before⟩ := sound.windows window isIn
    exact ⟨row, present, { before with }⟩
  leases := sound.leases
  leaseIds := sound.leaseIds

theorem Store.setRecord_cases {store : Store}
    (present : (store.setRecord keyId record).records other = some found) :
    other = keyId ∧ found = record ∨ other ≠ keyId ∧ store.records other = some found := by
  by_cases same : other = keyId
  · subst same
    rw [setRecord_self] at present
    exact Or.inl ⟨rfl, (Option.some.inj present).symm⟩
  · rw [setRecord_other _ _ same] at present
    exact .inr ⟨same, present⟩

theorem Sound.ofKey_absent (sound : Sound w) (absent : w.store.records keyId = none) :
    w.ofKey keyId = [] := by
  refine List.filter_eq_nil_iff.mpr fun r isIn chosen => ?_
  obtain ⟨row, present, -⟩ := sound.reservations r isIn
  rw [of_decide_eq_true chosen, absent] at present
  exact nomatch present

theorem World.requests_sublist (w : World) (keyId : String) (limits : PolicyLimits) (start : Nat) :
    List.Sublist (w.requests keyId limits start) (w.ofKey keyId) := by
  refine List.monotone_filter_right _ fun r chosen => ?_
  simp only [decide_eq_true_eq] at chosen ⊢
  exact chosen.1

theorem World.live_sublist (w : World) (keyId : String) :
    List.Sublist (w.live keyId) (w.ofKey keyId) := by
  refine List.monotone_filter_right _ fun r chosen => ?_
  simp only [decide_eq_true_eq] at chosen ⊢
  exact chosen.1

theorem Sound.created (sound : Sound w) (absent : w.store.records record.keyId = none)
    (digest : record.verifierDigest.keyId = record.keyId) (active : record.status = .active)
    (unused : record.useCount = 0) : Sound { w with
      store := { w.store.setRecord record.keyId record with drawn := w.store.drawn + 1 }
      issued := update w.issued record.keyId (some record.verifierDigest.secret) } where
  rows := fun keyId row present => by
    rcases setRecord_cases present with ⟨rfl, rfl⟩ | ⟨differs, present⟩
    · have none := sound.ofKey_absent absent
      have requests := fun start => (w.requests_sublist row.keyId row.policy.limits start).length_le
      have live := (w.live_sublist row.keyId).length_le
      rw [none] at requests live
      exact {
        keyed := rfl
        digest := digest
        issued := update_self ..
        useCount := by rw [unused]; exact congrArg List.length none
        uses := by rw [unused]; exact Nat.zero_le _
        active := fun _ => by rw [unused]; exact row.policy.limits.maxUses_pos
        exhausted := fun exhausted => nomatch active.symm.trans exhausted
        requests := fun start => Nat.le_trans (requests start) (Nat.zero_le _)
        concurrent := Nat.le_trans live (Nat.zero_le _) }
    · have before := sound.rows keyId row present
      exact { before with issued := (update_of_ne differs ..).trans before.issued }
  reservations := fun r isIn => by
    obtain ⟨row, present, before⟩ := sound.reservations r isIn
    have differs : r.keyId ≠ record.keyId := fun same => nomatch (same ▸ present).symm.trans absent
    exact ⟨row, (setRecord_other _ _ differs).trans present,
      { before with drawn := Nat.lt_succ_of_lt before.drawn }⟩
  windows := fun window isIn => by
    obtain ⟨row, present, before⟩ := sound.windows window isIn
    have differs : window.keyId ≠ record.keyId :=
      fun same => nomatch (same ▸ present).symm.trans absent
    exact ⟨row, (setRecord_other _ _ differs).trans present, { before with }⟩
  leases := sound.leases
  leaseIds := sound.leaseIds

theorem bump_ne (differs : other ≠ keyId) : bump changes keyId other = changes other :=
  update_of_ne differs ..

theorem Moves.changes_le (moves : Moves w row next issued changes leases) :
    w.changes row.keyId ≤ changes row.keyId ∧ changes row.keyId ≤ w.changes row.keyId + 1 ∧
      ∀ other, other ≠ row.keyId → changes other = w.changes other := by
  rcases moves.changes with rfl | rfl
  · exact ⟨Nat.le_refl _, Nat.le_succ _, fun _ _ => rfl⟩
  · refine ⟨?_, ?_, fun other differs => bump_ne differs⟩
    · simp only [bump, update_self, Nat.le_add_right]
    · simp only [bump, update_self, Nat.le_refl]

theorem Sound.moved (sound : Sound w) (moves : Moves w row next issued changes leases) :
    Sound { w with
      store := { w.store.setRecord row.keyId next with effectLeases := leases }
      issued := issued
      changes := changes } where
  rows := fun keyId found present => by
    have isIssued := moves.issued
    rcases setRecord_cases present with ⟨rfl, rfl⟩ | ⟨differs, present⟩
    · have before := sound.rows row.keyId row moves.present
      have carries := moves.carries
      rw [ApiKeyRecord.mk.injEq] at carries
      obtain ⟨sameKey, -, -, -, -, -, -, policy, -, -, useCount, -⟩ := carries
      exact {
        keyed := sameKey
        digest := moves.digest.elim (fun same => same.trans before.digest) id
        issued := by
          rcases isIssued with rfl | ⟨rfl, same⟩
          · exact update_self ..
          · rw [same]; exact before.issued
        useCount := by rw [useCount]; exact before.useCount
        uses := by rw [useCount, policy]; exact before.uses
        active := fun active => by
          rw [useCount, policy]
          exact before.active moves.wasActive
        exhausted := fun exhausted => by
          rw [useCount, policy]
          exact moves.exhausted exhausted
        requests := by rw [policy]; exact before.requests
        concurrent := by rw [policy]; exact before.concurrent }
    · have before := sound.rows keyId found present
      refine { before with issued := ?_ }
      rcases isIssued with rfl | ⟨rfl, -⟩
      · exact (update_of_ne differs ..).trans before.issued
      · exact before.issued
  reservations := fun r isIn => by
    obtain ⟨found, present, before⟩ := sound.reservations r isIn
    obtain ⟨grows, atMost, others⟩ := moves.changes_le
    by_cases same : r.keyId = row.keyId
    · have carries := moves.carries
      rw [ApiKeyRecord.mk.injEq] at carries
      obtain ⟨-, -, -, -, node, digest, -, policy, -, revision, -, -⟩ := carries
      obtain rfl : found = row := Option.some.inj ((same ▸ present).symm.trans moves.present)
      rw [← same] at grows atMost
      have revised := before.revision
      refine ⟨next, by rw [same]; exact setRecord_self .., {
        before with
        changes := Nat.le_trans before.changes grows
        revision := by rw [revision]; dsimp only; omega
        lineage := by rw [node, digest]; exact before.lineage
        lease := fun unreleased unexpired unrevoked => ?_
        window := by rw [policy]; exact before.window }⟩
      rcases moves.leases with isLeases | ⟨isRevoked, -⟩
      · have wasUnrevoked : found.status ≠ .revoked :=
          fun isRevoked => nomatch moves.wasActive.symm.trans isRevoked
        rw [isLeases]
        exact before.lease unreleased unexpired wasUnrevoked
      · exact absurd isRevoked unrevoked
    · refine ⟨found, (setRecord_other _ _ same).trans present, {
        before with
        changes := Nat.le_trans before.changes (Nat.le_of_eq (others _ same).symm)
        revision := by dsimp only; rw [others _ same]; exact before.revision
        lease := fun unreleased unexpired unrevoked => ?_ }⟩
      obtain ⟨lease, isLease, sameKey, facts⟩ := before.lease unreleased unexpired unrevoked
      refine ⟨lease, ?_, sameKey, facts⟩
      rcases moves.leases with isLeases | ⟨-, isLeases⟩
      · rw [isLeases]
        exact isLease
      · rw [isLeases]
        exact List.mem_filter.mpr ⟨isLease, decide_eq_true (sameKey ▸ same)⟩
  windows := fun window isIn => by
    obtain ⟨found, present, before⟩ := sound.windows window isIn
    by_cases same : window.keyId = row.keyId
    · have carries := moves.carries
      rw [ApiKeyRecord.mk.injEq] at carries
      obtain ⟨-, -, -, -, -, -, -, policy, -⟩ := carries
      obtain rfl : found = row := Option.some.inj ((same ▸ present).symm.trans moves.present)
      refine ⟨next, by rw [same]; exact setRecord_self .., ?_⟩
      exact {
        requestCount := by rw [policy]; exact before.requestCount
        expiresAt := by rw [policy]; exact before.expiresAt }
    · exact ⟨found, (setRecord_other _ _ same).trans present, { before with }⟩
  leases := fun lease isIn => by
    refine sound.leases lease ?_
    rcases moves.leases with isLeases | ⟨-, isLeases⟩
    · exact isLeases ▸ isIn
    · exact (List.mem_filter.mp (isLeases ▸ isIn)).1
  leaseIds := sound.leaseIds

end LicoMesh.ApiKeys

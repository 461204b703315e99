import LicoMesh.ApiKeys.Limits

namespace LicoMesh.ApiKeys

open List

variable {reservations : List Reservation} {p : Reservation → Bool} {lease : EffectLease}
  {windows : List UsageWindow} {r : Reservation} {store : Store} {window : UsageWindow}
  {env : WorkerEnv} {w : World} {keyId : String} {leaseId timestamp : Nat} {row : ApiKeyRecord}
  (isIn : r ∈ release reservations keyId leaseId)
include isIn

theorem mem_release : ∃ before ∈ reservations,
      (before.keyId = keyId ∧ before.leaseId = leaseId ∧ r = { before with released := true }) ∨
      (¬ (before.keyId = keyId ∧ before.leaseId = leaseId) ∧ r = before) := by
  obtain ⟨before, isBefore, rfl⟩ := mem_map.mp isIn
  refine ⟨before, isBefore, ?_⟩
  split_ifs with same
  · exact .inl ⟨same.1, same.2, rfl⟩
  · exact .inr ⟨same, rfl⟩

theorem mem_release_same : ∃ before ∈ reservations, r = { before with released := r.released } ∧
      (r.released = false → r = before ∧ ¬ (before.keyId = keyId ∧ before.leaseId = leaseId)) := by
  obtain ⟨before, isBefore, ⟨-, -, rfl⟩ | ⟨differs, rfl⟩⟩ := mem_release isIn
  · exact ⟨before, isBefore, rfl, nofun⟩
  · exact ⟨r, isBefore, rfl, fun _ => ⟨rfl, differs⟩⟩

omit isIn

theorem filter_release_length (reservations : List Reservation)
    (ignores : ∀ r : Reservation, p { r with released := true } = p r) :
    ((release reservations keyId leaseId).filter p).length = (reservations.filter p).length := by
  unfold release
  rw [filter_map, length_map]
  congr 1
  refine filter_congr fun r _ => ?_
  simp only [Function.comp_apply]
  split_ifs
  · exact ignores r
  · rfl

theorem filter_release_le (reservations : List Reservation)
    (falls : ∀ r : Reservation, p { r with released := true } = true → p r = true) :
    ((release reservations keyId leaseId).filter p).length ≤ (reservations.filter p).length := by
  unfold release
  rw [filter_map, length_map]
  refine (monotone_filter_right _ fun r chosen => ?_).length_le
  simp only [Function.comp_apply] at chosen
  split_ifs at chosen
  · exact falls r chosen
  · exact chosen

theorem Sound.released (sound : Sound w) (keyId : String) (leaseId : Nat) : Sound { w with
      store := releaseEffect keyId leaseId w.store
      reservations := release w.reservations keyId leaseId } where
  rows := fun other found present => by
    have before := sound.rows other found present
    exact { before with
      useCount := (filter_release_length _ fun _ => rfl).trans before.useCount
      requests := fun start =>
        Nat.le_trans (Nat.le_of_eq (filter_release_length _ fun _ => rfl)) (before.requests start)
      concurrent := by
        refine Nat.le_trans (filter_release_le _ fun r chosen => ?_) before.concurrent
        exact nomatch (of_decide_eq_true chosen).2.1 }
  reservations := fun r isIn => by
    obtain ⟨was, isBefore, same, kept⟩ := mem_release_same isIn
    obtain ⟨found, present, before⟩ := sound.reservations was isBefore
    rw [same]
    refine ⟨found, present, { before with lease := fun unreleased unexpired unrevoked => ?_ }⟩
    obtain ⟨isSame, differs⟩ := kept unreleased
    subst isSame
    obtain ⟨lease, isLease, sameKey, sameId, facts⟩ := before.lease unreleased unexpired unrevoked
    refine ⟨lease, mem_filter.mpr ⟨isLease, decide_eq_true ?_⟩, sameKey, sameId, facts⟩
    rw [sameKey, sameId]
    exact differs
  windows := fun window isIn => by
    obtain ⟨found, present, before⟩ := sound.windows window isIn
    refine ⟨found, present, { before with requestCount := ?_ }⟩
    exact (filter_release_length _ fun _ => rfl).trans before.requestCount
  leases := fun lease isIn => by
    obtain ⟨isLease, kept⟩ := mem_filter.mp isIn
    obtain ⟨r, isReservation, of⟩ := sound.leases lease isLease
    refine ⟨r, ?_, of⟩
    refine mem_map.mpr ⟨r, isReservation, if_neg ?_⟩
    rw [of.keyId, of.leaseId]
    exact of_decide_eq_true kept
  leaseIds := by
    refine (congrArg Nodup ?_).mpr sound.leaseIds
    unfold release
    rw [map_map]
    refine map_congr_left fun r _ => ?_
    simp only [Function.comp_apply]
    split_ifs <;> rfl

theorem mem_cleanedStore_leases (isIn : lease ∈ (cleanedStore store keyId timestamp).effectLeases) :
    lease ∈ store.effectLeases :=
  mem_of_mem_deleteExpired (mem_filter.mp isIn).1

theorem mem_cleanedStore_windows
    (isIn : window ∈ (cleanedStore store keyId timestamp).usageWindows) :
    window ∈ store.usageWindows :=
  mem_of_mem_deleteExpired (mem_filter.mp isIn).1

theorem cleanedStore_lease (keyId : String) (isIn : lease ∈ store.effectLeases)
    (unexpired : timestamp < lease.expiresAt) :
    lease ∈ (cleanedStore store keyId timestamp).effectLeases := by
  refine mem_filter.mpr ⟨mem_deleteExpired_of_lt isIn unexpired, ?_⟩
  exact decide_eq_true fun expired => by omega

theorem cleanedStore_window (keyId : String) (isIn : window ∈ store.usageWindows)
    (unexpired : timestamp < window.expiresAt) :
    window ∈ (cleanedStore store keyId timestamp).usageWindows := by
  refine mem_filter.mpr ⟨mem_deleteExpired_of_lt isIn unexpired, ?_⟩
  exact decide_eq_true fun expired => by omega

theorem lt_windowStart (limits : PolicyLimits) (timestamp : Nat) :
    timestamp < windowStart limits timestamp + limits.windowMs := by
  have := Nat.div_add_mod timestamp limits.windowMs
  have := Nat.mod_lt timestamp limits.windowMs_pos
  unfold windowStart
  rw [Nat.mul_comm]
  omega

theorem Sound.requests_eq (sound : Sound w) (present : w.store.records keyId = some row) :
    requestCount (cleanedStore w.store keyId w.clock).usageWindows keyId
        (windowStart row.policy.limits w.clock) =
      (w.requests keyId row.policy.limits (windowStart row.policy.limits w.clock)).length := by
  unfold requestCount
  cases found : (cleanedStore w.store keyId w.clock).usageWindows.find? fun window =>
      window.keyId = keyId ∧ window.windowStart = windowStart row.policy.limits w.clock with
  | some window =>
    have chosen := find?_some found
    obtain ⟨rfl, sameStart⟩ := of_decide_eq_true chosen
    obtain ⟨owner, ownerPresent, before⟩ :=
      sound.windows window (mem_cleanedStore_windows (mem_of_find?_eq_some found))
    obtain rfl : owner = row := Option.some.inj (ownerPresent.symm.trans present)
    rw [← sameStart]
    exact before.requestCount.symm
  | none =>
    symm
    refine length_eq_zero_iff.mpr (filter_eq_nil_iff.mpr fun r isIn chosen => ?_)
    obtain ⟨rfl, sameStart⟩ := of_decide_eq_true chosen
    obtain ⟨owner, ownerPresent, before⟩ := sound.reservations r isIn
    obtain rfl : owner = row := Option.some.inj (ownerPresent.symm.trans present)
    have running := lt_windowStart owner.policy.limits w.clock
    obtain ⟨window, isWindow, sameKey, start⟩ := before.window (by rw [sameStart]; omega)
    obtain ⟨other, otherPresent, counted⟩ := sound.windows window isWindow
    obtain rfl : other = owner := Option.some.inj ((sameKey ▸ otherPresent).symm.trans present)
    have expiresAt := counted.expiresAt
    have isCleaned := cleanedStore_window r.keyId isWindow
      (show w.clock < window.expiresAt by omega)
    have absent := find?_eq_none.mp found window isCleaned
    exact absent (decide_eq_true ⟨sameKey, start.trans sameStart⟩)

theorem Sound.live_le (sound : Sound w) (present : w.store.records keyId = some row)
    (unrevoked : row.status ≠ .revoked) :
    (w.live keyId).length ≤ ((cleanedStore w.store keyId w.clock).effectLeases.filter fun lease =>
      lease.keyId = keyId ∧ w.clock < lease.expiresAt).length := by
  have nodup : ((w.live keyId).map (·.leaseId)).Nodup :=
    sound.leaseIds.sublist (filter_sublist.map _)
  have held : (w.live keyId).map (·.leaseId) ⊆
      ((cleanedStore w.store keyId w.clock).effectLeases.filter fun lease =>
        lease.keyId = keyId ∧ w.clock < lease.expiresAt).map (·.leaseId) := by
    intro leaseId isLive
    obtain ⟨r, rIsLive, rfl⟩ := mem_map.mp isLive
    obtain ⟨isIn, chosen⟩ := mem_filter.mp rIsLive
    obtain ⟨rfl, unreleased, unexpired⟩ := of_decide_eq_true chosen
    obtain ⟨owner, ownerPresent, before⟩ := sound.reservations r isIn
    obtain rfl : owner = row := Option.some.inj (ownerPresent.symm.trans present)
    obtain ⟨lease, isLease, sameKey, sameId, sameEnd⟩ := before.lease unreleased unexpired unrevoked
    have leaseUnexpired : w.clock < lease.expiresAt := sameEnd ▸ unexpired
    refine mem_map.mpr ⟨lease, mem_filter.mpr ⟨?_, ?_⟩, sameId⟩
    · exact cleanedStore_lease _ isLease leaseUnexpired
    · exact decide_eq_true ⟨sameKey, leaseUnexpired⟩
  have := (subperm_of_subset nodup held).length_le
  rwa [length_map, length_map] at this

theorem filter_append_singleton_length (reservations : List Reservation) (r : Reservation)
    (p : Reservation → Bool) : ((reservations ++ [r]).filter p).length =
      (reservations.filter p).length + (if p r then 1 else 0) := by
  cases holds : p r <;> simp [holds]

theorem mem_countRequest (isIn : window ∈ countRequest windows keyId start windowMs) :
    (∃ before ∈ windows, before.keyId = keyId ∧ before.windowStart = start ∧
      window = { before with requestCount := before.requestCount + 1 }) ∨
    (window ∈ windows ∧ ¬ (window.keyId = keyId ∧ window.windowStart = start)) ∨
    (window = ⟨keyId, start, 1, start + windowMs * 2⟩ ∧
      requestCount windows keyId start = 0) := by
  unfold countRequest at isIn
  split_ifs at isIn with present
  · obtain ⟨before, isBefore, rfl⟩ := mem_map.mp isIn
    split_ifs with same
    · exact .inl ⟨before, isBefore, same.1, same.2, rfl⟩
    · exact .inr (.inl ⟨isBefore, same⟩)
  · have absent : ∀ window ∈ windows, ¬ (window.keyId = keyId ∧ window.windowStart = start) := by
      intro window isWindow same
      exact present (any_eq_true.mpr ⟨window, isWindow, decide_eq_true same⟩)
    rcases mem_append.mp isIn with isBefore | isNew
    · exact .inr (.inl ⟨isBefore, absent window isBefore⟩)
    · refine .inr (.inr ⟨mem_singleton.mp isNew, ?_⟩)
      unfold requestCount
      rw [find?_eq_none.mpr fun window isWindow => by simpa using absent window isWindow]
      rfl

theorem countRequest_present (windows : List UsageWindow) (keyId : String) (start windowMs : Nat) :
    ∃ window ∈ countRequest windows keyId start windowMs,
      window.keyId = keyId ∧ window.windowStart = start := by
  unfold countRequest
  split_ifs with present
  · obtain ⟨window, isWindow, same⟩ := any_eq_true.mp present
    have same := of_decide_eq_true same
    exact ⟨_, mem_map.mpr ⟨window, isWindow, if_pos same⟩, same⟩
  · exact ⟨_, mem_append_right _ (mem_singleton.mpr rfl), rfl, rfl⟩

theorem countRequest_keeps (keyId : String) (start windowMs : Nat) (isIn : window ∈ windows) :
    ∃ after ∈ countRequest windows keyId start windowMs,
      after.keyId = window.keyId ∧ after.windowStart = window.windowStart := by
  unfold countRequest
  split_ifs with present
  · refine ⟨_, mem_map.mpr ⟨window, isIn, rfl⟩, ?_⟩
    split_ifs <;> exact ⟨rfl, rfl⟩
  · exact ⟨window, mem_append_left _ isIn, rfl, rfl⟩

def newReservation (env : WorkerEnv) (w : World) (row : ApiKeyRecord)
    (snapshot : OrganizationSnapshot) : Reservation where
  keyId := row.keyId
  leaseId := w.store.drawn
  timestamp := w.clock
  expiresAt := w.clock + env.effectLeaseTtlMs
  lifecycleRevision := row.lifecycleRevision
  snapshot := snapshot
  changes := w.changes row.keyId

def newLease (env : WorkerEnv) (w : World) (row : ApiKeyRecord) : EffectLease where
  keyId := row.keyId
  leaseId := w.store.drawn
  lifecycleRevision := row.lifecycleRevision
  policyFingerprint := row.policy
  expiresAt := w.clock + env.effectLeaseTtlMs

def usedRow (row : ApiKeyRecord) : ApiKeyRecord := { row with
  useCount := row.useCount + 1
  status := if row.policy.limits.maxUses ≤ row.useCount + 1 then .exhausted else row.status }

def reservedWorld (env : WorkerEnv) (w : World) (row : ApiKeyRecord)
    (snapshot : OrganizationSnapshot) : World :=
  { w with
    store := { (cleanedStore w.store row.keyId w.clock).setRecord row.keyId (usedRow row) with
      usageWindows := countRequest (cleanedStore w.store row.keyId w.clock).usageWindows
        row.keyId (windowStart row.policy.limits w.clock) row.policy.limits.windowMs
      effectLeases := (cleanedStore w.store row.keyId w.clock).effectLeases ++ [newLease env w row]
      drawn := w.store.drawn + 1 }
    reservations := w.reservations ++ [newReservation env w row snapshot] }

variable {snapshot : OrganizationSnapshot}

theorem reservedWorld_filter (p : Reservation → Bool)
    (other : p (newReservation env w row snapshot) = false) :
    ((reservedWorld env w row snapshot).reservations.filter p) = w.reservations.filter p := by
  refine (filter_append ..).trans ?_
  rw [filter_singleton, other]
  exact append_nil _

theorem Sound.reserved_row (sound : Sound w) (admitted : Admitted w row snapshot w.clock) :
    RowSound (reservedWorld env w row snapshot) row.keyId (usedRow row) := by
  have before := sound.rows row.keyId row admitted.present
  have unrevoked : row.status ≠ .revoked := fun revoked =>
    nomatch admitted.active.symm.trans revoked
  have uses := admitted.uses
  exact {
    keyed := rfl
    digest := before.digest
    issued := before.issued
    useCount := by
      refine (filter_append_singleton_length ..).trans ?_
      rw [show (w.reservations.filter (·.keyId = row.keyId)).length = _ from before.useCount]
      exact congrArg (row.useCount + ·) (if_pos (decide_eq_true rfl))
    uses := uses
    active := fun active => by
      unfold usedRow at active ⊢
      dsimp only at active ⊢
      split_ifs at active with lapsed
      omega
    exhausted := fun exhausted => by
      unfold usedRow at exhausted ⊢
      split_ifs at exhausted with lapsed
      · exact lapsed
      · exact nomatch admitted.active.symm.trans exhausted
    requests := fun start => by
      refine Nat.le_trans (Nat.le_of_eq (filter_append_singleton_length ..)) ?_
      have bound := before.requests start
      split_ifs with here
      · have sameStart : windowStart row.policy.limits w.clock = start :=
          (of_decide_eq_true here).2
        have counted := sound.requests_eq admitted.present
        have room := admitted.requests
        rw [counted, sameStart] at room
        exact room
      · exact bound
    concurrent := by
      refine Nat.le_trans (Nat.le_of_eq (filter_append_singleton_length ..)) ?_
      have room := Nat.lt_of_le_of_lt (sound.live_le admitted.present unrevoked)
        admitted.concurrent
      have live : (w.reservations.filter fun r => decide (r.keyId = row.keyId ∧
          r.released = false ∧ w.clock < r.expiresAt)).length < _ := room
      split_ifs
      · exact live
      · exact Nat.le_of_lt live }

theorem newReservation_sound (admitted : Admitted w row snapshot w.clock) :
    ReservationSound (reservedWorld env w row snapshot) (usedRow row)
      (newReservation env w row snapshot) where
  timely := Nat.le_refl _
  drawn := Nat.lt_succ_self _
  changes := Nat.le_refl _
  revision := Nat.le_refl _
  lineage := admitted.lineage
  lease := fun _ _ _ =>
    ⟨newLease env w row, mem_append_right _ (mem_singleton.mpr rfl), rfl, rfl, rfl⟩
  window := fun _ => countRequest_present ..

theorem Sound.reserved_old (sound : Sound w) (admitted : Admitted w row snapshot w.clock)
    (isIn : r ∈ w.reservations) :
    ∃ found, (reservedWorld env w row snapshot).store.records r.keyId = some found ∧
      ReservationSound (reservedWorld env w row snapshot) found r := by
  obtain ⟨found, present, before⟩ := sound.reservations r isIn
  have lease : r.released = false → w.clock < r.expiresAt → found.status ≠ .revoked →
      ∃ lease ∈ (reservedWorld env w row snapshot).store.effectLeases,
        lease.keyId = r.keyId ∧ lease.leaseId = r.leaseId ∧ lease.expiresAt = r.expiresAt := by
    intro unreleased unexpired unrevoked
    obtain ⟨lease, isLease, sameKey, sameId, sameEnd⟩ := before.lease unreleased unexpired unrevoked
    have kept := cleanedStore_lease row.keyId isLease (sameEnd ▸ unexpired)
    exact ⟨lease, mem_append_left _ kept, sameKey, sameId, sameEnd⟩
  have window : w.clock < windowStart found.policy.limits r.timestamp +
        found.policy.limits.windowMs * 2 →
      ∃ window ∈ (reservedWorld env w row snapshot).store.usageWindows, window.keyId = r.keyId ∧
        window.windowStart = windowStart found.policy.limits r.timestamp := by
    intro unexpired
    obtain ⟨window, isWindow, sameKey, start⟩ := before.window unexpired
    obtain ⟨owner, ownerPresent, counted⟩ := sound.windows window isWindow
    obtain rfl : owner = found := Option.some.inj ((sameKey ▸ ownerPresent).symm.trans present)
    have kept := cleanedStore_window row.keyId isWindow
      (by rw [counted.expiresAt, start]; exact unexpired)
    obtain ⟨after, isAfter, afterKey, afterStart⟩ := countRequest_keeps row.keyId
      (windowStart row.policy.limits w.clock) row.policy.limits.windowMs kept
    exact ⟨after, isAfter, afterKey.trans sameKey, afterStart.trans start⟩
  by_cases same : r.keyId = row.keyId
  · obtain rfl : found = row := Option.some.inj ((same ▸ present).symm.trans admitted.present)
    exact ⟨usedRow found, by rw [same]; exact Store.setRecord_self .., {
      timely := before.timely
      drawn := Nat.lt_succ_of_lt before.drawn
      changes := before.changes
      revision := before.revision
      lineage := before.lineage
      lease := fun unreleased unexpired unrevoked =>
        lease unreleased unexpired fun revoked => nomatch admitted.active.symm.trans revoked
      window := window }⟩
  · exact ⟨found, (Store.setRecord_other _ _ same).trans present, {
      timely := before.timely
      drawn := Nat.lt_succ_of_lt before.drawn
      changes := before.changes
      revision := before.revision
      lineage := before.lineage
      lease := lease
      window := window }⟩

theorem Sound.reserved_window (sound : Sound w) (admitted : Admitted w row snapshot w.clock)
    (isIn : window ∈ (reservedWorld env w row snapshot).store.usageWindows) :
    ∃ found, (reservedWorld env w row snapshot).store.records window.keyId = some found ∧
      WindowSound (reservedWorld env w row snapshot) found window := by
  have limits : ∀ other, other = row.keyId → (reservedWorld env w row snapshot).store.records other =
      some (usedRow row) := fun other same => by rw [same]; exact Store.setRecord_self ..
  rcases mem_countRequest isIn with
    ⟨before, isBefore, sameKey, sameStart, rfl⟩ | ⟨isBefore, differs⟩ | ⟨rfl, none⟩
  · obtain ⟨found, present, counted⟩ := sound.windows before (mem_cleanedStore_windows isBefore)
    obtain rfl : found = row := Option.some.inj ((sameKey ▸ present).symm.trans admitted.present)
    refine ⟨usedRow found, limits _ sameKey, ?_, counted.expiresAt⟩
    refine (filter_append_singleton_length ..).trans ?_
    rw [if_pos (decide_eq_true ⟨sameKey.symm, sameStart.symm⟩)]
    exact congrArg (· + 1) counted.requestCount
  · obtain ⟨found, present, counted⟩ := sound.windows window (mem_cleanedStore_windows isBefore)
    have requests : ∀ limits, limits = row.policy.limits →
        ((reservedWorld env w row snapshot).requests window.keyId limits
          window.windowStart).length =
        (w.requests window.keyId limits window.windowStart).length := by
      rintro _ rfl
      refine (filter_append_singleton_length ..).trans ?_
      rw [if_neg fun chosen => ?_]
      · rfl
      · have same := of_decide_eq_true chosen
        exact differs ⟨same.1.symm, same.2.symm⟩
    by_cases same : window.keyId = row.keyId
    · obtain rfl : found = row := Option.some.inj ((same ▸ present).symm.trans admitted.present)
      exact ⟨usedRow found, limits _ same, (requests _ rfl).trans counted.requestCount,
        counted.expiresAt⟩
    · refine ⟨found, (Store.setRecord_other _ _ same).trans present, ?_, counted.expiresAt⟩
      refine (filter_append_singleton_length ..).trans ?_
      rw [if_neg fun chosen => same (of_decide_eq_true chosen).1.symm]
      exact counted.requestCount
  · refine ⟨usedRow row, limits _ rfl, ?_, rfl⟩
    refine (filter_append_singleton_length ..).trans ?_
    rw [if_pos (decide_eq_true ⟨rfl, rfl⟩)]
    have counted := sound.requests_eq admitted.present
    rw [none] at counted
    exact congrArg (· + 1) counted.symm

theorem Sound.reserved (sound : Sound w) (env : WorkerEnv) (admitted : Admitted w row snapshot w.clock) :
    Sound (reservedWorld env w row snapshot) where
  rows := fun keyId found present => by
    rcases Store.setRecord_cases present with ⟨rfl, rfl⟩ | ⟨differs, present⟩
    · exact sound.reserved_row admitted
    · have before := sound.rows keyId found present
      have other : ∀ p : Reservation → Bool, (p (newReservation env w row snapshot) = true →
          row.keyId = keyId) → ((reservedWorld env w row snapshot).reservations.filter p) =
            w.reservations.filter p := fun p only =>
        reservedWorld_filter p (Bool.eq_false_iff.mpr fun chosen => differs (only chosen).symm)
      exact { before with
        useCount := (congrArg length (other _ of_decide_eq_true)).trans before.useCount
        requests := fun start => Nat.le_trans (Nat.le_of_eq (congrArg length
          (other _ fun chosen => (of_decide_eq_true chosen).1))) (before.requests start)
        concurrent := Nat.le_trans (Nat.le_of_eq (congrArg length
          (other _ fun chosen => (of_decide_eq_true chosen).1))) before.concurrent }
  reservations := fun r isIn => by
    rcases mem_append.mp isIn with isOld | isNew
    · exact sound.reserved_old admitted isOld
    · rw [mem_singleton.mp isNew]
      exact ⟨usedRow row, Store.setRecord_self .., newReservation_sound admitted⟩
  windows := fun window isIn => sound.reserved_window admitted isIn
  leases := fun lease isIn => by
    rcases mem_append.mp isIn with isOld | isNew
    · obtain ⟨r, isReservation, of⟩ := sound.leases lease (mem_cleanedStore_leases isOld)
      exact ⟨r, mem_append_left _ isReservation, of⟩
    · rw [mem_singleton.mp isNew]
      exact ⟨newReservation env w row snapshot,
        mem_append_right _ (mem_singleton.mpr rfl), rfl, rfl, rfl, rfl, rfl⟩
  leaseIds := by
    refine (congrArg Nodup (map_append ..)).mpr ?_
    refine .append sound.leaseIds (nodup_singleton _) ?_
    intro leaseId isOld isNew
    obtain ⟨r, isReservation, rfl⟩ := mem_map.mp isOld
    obtain ⟨_, -, before⟩ := sound.reservations r isReservation
    have isDrawn : r.leaseId = w.store.drawn := mem_singleton.mp isNew
    have := before.drawn
    omega

end LicoMesh.ApiKeys

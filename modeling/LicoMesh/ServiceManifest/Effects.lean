import LicoMesh.ServiceManifest.Transactions

namespace LicoMesh.ServiceManifest

open Library Transaction ManifestTransactionContext

variable {clock : CommitClock} {env : ManifestEnv} {pointer : ManifestPointer} {result : Unit}
  {input : ManifestCommitInput} {context : ManifestTransactionContext} {session next : Session}

theorem db_of_check (commits : context.check.Commits session result next) :
    next.db = session.db := by
  unfold ManifestTransactionContext.check at commits
  simp only [commits_bind, commits_get, commits_ite, commits_throw, commits_set] at commits
  obtain ⟨_, _, ⟨rfl, rfl⟩, commits⟩ := commits
  split at commits
  · cases commits
  · rw [← commits]

theorem db_of_consumeWrite
    (commits : (context.consumeWrite byteCount).Commits session result next) :
    next.db = session.db := by
  unfold consumeWrite at commits
  simp only [commits_bind, commits_get, commits_ite, commits_throw, commits_set] at commits
  obtain ⟨_, checked, check, _, _, ⟨rfl, rfl⟩, commits⟩ := commits
  split at commits
  · cases commits
  · have same : checked.db = session.db := db_of_check check
    rw [← commits]
    exact same

theorem db_of_inspectCleanupEntry
    (commits : context.inspectCleanupEntry.Commits session result next) : next.db = session.db := by
  unfold inspectCleanupEntry at commits
  simp only [commits_bind, commits_get, commits_ite, commits_throw, commits_set] at commits
  obtain ⟨_, checked, check, _, _, ⟨rfl, rfl⟩, commits⟩ := commits
  split at commits
  · cases commits
  · have same : checked.db = session.db := db_of_check check
    rw [← commits]
    exact same

theorem commits_update : (update write).Commits session result next ↔
      { session with db := write session.db } = next := by
  simp [update]

theorem commits_require :
    (require condition error).Commits session result next ↔ condition = true ∧ session = next := by
  unfold require
  cases condition with
  | true => simp
  | false => simp

inductive RequestsPruned : Database → Database → Prop
  | done (db : Database) : RequestsPruned db db
  | delete {db last : Database} {row : RequestRow} (member : row ∈ db.requests.rows)
      (rest : RequestsPruned (db.deleteRequest row) last) : RequestsPruned db last

variable {db : Database}

theorem mem_of_oldestRequest
    (found : db.oldestRequest lapsed cutoff = some row) : row ∈ db.requests.rows := by
  have member := List.mem_of_mem_head? found
  rw [List.mem_insertionSort] at member
  exact (List.mem_filter.mp member).1

theorem pruneRequests_commits {remaining : Nat}
    (commits : (pruneRequests context bytes cutoff remaining).Commits session result next) :
    RequestsPruned session.db next.db := by
  induction remaining generalizing session with
  | zero =>
    simp only [pruneRequests, commits_pure] at commits
    obtain ⟨-, rfl⟩ := commits
    exact .done session.db
  | succ remaining induction =>
    simp only [pruneRequests, commits_bind, commits_get, commits_check] at commits
    obtain ⟨_, _, ⟨rfl, rfl⟩, lapsed, _, ⟨-, rfl⟩, commits⟩ := commits
    split at commits
    · obtain ⟨-, rfl⟩ := commits_pure.mp commits
      exact .done session.db
    · rename_i oldest found
      simp only [commits_bind, commits_update] at commits
      obtain ⟨_, inspected, inspect, _, _, rfl, commits⟩ := commits
      have same : inspected.db = session.db := db_of_inspectCleanupEntry inspect
      have pruned : RequestsPruned (inspected.db.deleteRequest oldest) next.db := induction commits
      rw [same] at pruned
      exact .delete (mem_of_oldestRequest found) pruned

theorem recordRequest_commits
    (commits : (recordRequest context input outcome clock).Commits session result next) :
    ∃ pruned, RequestsPruned session.db pruned ∧
      next.db = pruned.insertRequest outcome clock.createdAtMs (recordBytes outcome input) := by
  simp only [recordRequest, commits_bind, commits_require, commits_get, commits_check,
    commits_update] at commits
  obtain ⟨_, _, ⟨-, rfl⟩, _, pruned, prune, _, _, ⟨rfl, rfl⟩, lapsed, _, ⟨-, rfl⟩, _, _, ⟨-, rfl⟩,
    _, written, consume, rfl⟩ := commits
  have same : written.db = pruned.db := db_of_consumeWrite consume
  refine ⟨pruned.db, pruneRequests_commits prune, ?_⟩
  simp only [same]

def Database.publish (db : Database) (env : ManifestEnv) (input : ManifestCommitInput)
    (admitted : Admitted) : Option Database :=
  let stored := db.insertBlob input.manifestDigest input.manifestBytes
  let closed :=
    if admitted.existingService.isSome then
      stored.closeVersions input.serviceId (admitted.setRevision input)
    else stored
  (closed.insertVersion
    { serviceId := input.serviceId
      validFromRevision := admitted.setRevision input
      validToRevision := 0
      serviceRevision := admitted.serviceRevision input
      manifestDigest := input.manifestDigest }).map fun inserted =>
        (inserted.upsertService
          ⟨input.serviceId, admitted.serviceRevision input, input.manifestDigest⟩).setCandidate
            ⟨admitted.setRevision input, admitted.setDigest env input⟩

theorem insertBlob_of_present (present : db.blobs.find? digest = some blob) :
    db.insertBlob digest bytes = db := by
  have kept : db.blobs.insertOrIgnore ⟨digest, bytes, bytes.length⟩ = db.blobs := by
    unfold Table.insertOrIgnore
    rw [dif_neg]
    simp [present]
  unfold Database.insertBlob
  rw [kept]

theorem writeBlob_commits (commits : (writeBlob context input).Commits session result next) :
    next.db = session.db.insertBlob input.manifestDigest input.manifestBytes := by
  simp only [writeBlob, commits_bind, commits_get] at commits
  obtain ⟨_, _, ⟨rfl, rfl⟩, commits⟩ := commits
  split at commits
  · rename_i existing found
    obtain ⟨-, rfl⟩ := commits_require.mp commits
    exact (insertBlob_of_present found).symm
  · simp only [commits_bind, commits_update] at commits
    obtain ⟨_, written, consume, rfl⟩ := commits
    have same : written.db = session.db := db_of_consumeWrite consume
    simp only [same]

theorem writeVersion_commits
    (commits : (writeVersion env context input admitted).Commits session result next) :
    session.db.publish env input admitted = some next.db := by
  simp only [writeVersion, commits_bind, commits_update, commits_get] at commits
  obtain ⟨_, stored, write, _, _, rfl, _, _, ⟨rfl, rfl⟩, commits⟩ := commits
  have same := writeBlob_commits write
  split at commits
  · simp at commits
  · rename_i inserted found
    simp only [commits_bind, commits_set, commits_update] at commits
    obtain ⟨_, _, rfl, _, _, rfl, rfl⟩ := commits
    rw [same] at found
    simp only [Database.publish, found, Option.map_some]

theorem pointerFromMeta_ok {read : ManifestPointer} (ok : pointerFromMeta pointer = .ok read) :
    pointer = read := by
  obtain ⟨_, -, same⟩ := bind_eq_ok.mp ok
  cases same
  rfl

theorem commitManifest_commits {result : ManifestCommitResult}
    (commits : (commitManifest env context input clock).Commits session result next) :
    (∃ row, session.db.requestOf input.requestDigest = some row ∧
      requestMatches row.outcome input = true ∧
        result = { outcome := row.outcome, replayed := true, changed := false } ∧
          next.db = session.db) ∨
      session.db.requestOf input.requestDigest = none ∧ ∃ admitted written pruned,
        compareRevisions session.db input = .ok admitted ∧
          checkLimits context session.db input admitted = .ok () ∧
            (if admitted.unchanged input then written = session.db
              else session.db.publish env input admitted = some written) ∧
              RequestsPruned written pruned ∧ result =
                  { outcome := requestOutcome env input (admitted.serviceRevision input)
                      (admitted.setRevision input) (admitted.setDigest env input)
                    replayed := false
                    changed := !admitted.unchanged input } ∧
                next.db = pruned.insertRequest result.outcome clock.createdAtMs
                  (recordBytes result.outcome input) := by
  simp only [commitManifest, commits_bind, commits_get] at commits
  obtain ⟨_, checked, check, _, checked', check', _, _, ⟨rfl, rfl⟩, commits⟩ := commits
  have same : checked'.db = session.db := (db_of_check check').trans (db_of_check check)
  rw [same] at commits
  split at commits
  · rename_i row found
    simp only [commits_bind, commits_require, commits_pure] at commits
    obtain ⟨_, _, ⟨matching, rfl⟩, rfl, rfl⟩ := commits
    exact .inl ⟨row, found, matching, rfl, same⟩
  · rename_i unknown
    simp only [applyManifest, commits_bind, commits_get, commits_check, commits_pure] at commits
    obtain ⟨_, _, ⟨rfl, rfl⟩, admitted, _, ⟨compare, rfl⟩, _, _, ⟨limits, rfl⟩, _, written, write,
      _, recorded, record, rfl, rfl⟩ := commits
    obtain ⟨pruned, prune, inserted⟩ := recordRequest_commits record
    rw [same] at compare limits
    refine .inr ⟨unknown, admitted, written.db, pruned, compare, limits, ?_, prune, rfl, inserted⟩
    unfold writeManifest at write
    split at write
    · rename_i unchanged
      obtain ⟨-, rfl⟩ := commits_pure.mp write
      rw [if_pos unchanged]
      exact same
    · rename_i changed
      rw [if_neg changed, ← same]
      exact writeVersion_commits write

theorem pruneVersions_commits (commits : (pruneVersions context rows).Commits session result next) :
    next.db = rows.foldl .pruneVersion session.db := by
  induction rows generalizing session with
  | nil =>
    obtain ⟨-, rfl⟩ := commits_pure.mp commits
    rfl
  | cons row rest induction =>
    simp only [pruneVersions, commits_bind, commits_update] at commits
    obtain ⟨_, inspected, inspect, _, _, rfl, commits⟩ := commits
    have same : inspected.db = session.db := db_of_inspectCleanupEntry inspect
    rw [induction commits, same]
    rfl

theorem acknowledgePublished_commits {result : ManifestPointer}
    (commits : (acknowledgePublished context pointer).Commits session result next) :
    session.db.metadata.candidate = pointer ∧ result = pointer ∧
      next.db = (session.db.obsoleteVersions pointer.setRevision
        context.budget.maxCleanupEntries).foldl .pruneVersion
          (session.db.setPublished pointer) := by
  simp only [acknowledgePublished, commits_bind, commits_get, commits_check, commits_require,
    commits_update, commits_pure] at commits
  obtain ⟨_, checked, check, _, checked', check', _, _, ⟨rfl, rfl⟩, candidate, _, ⟨read, rfl⟩, _,
    _, ⟨current, rfl⟩, _, _, rfl, _, pruned, prune, rfl, rfl⟩ := commits
  have same : checked'.db = session.db := (db_of_check check').trans (db_of_check check)
  have held : checked'.db.metadata.candidate = candidate := pointerFromMeta_ok read
  obtain rfl : candidate = pointer := by simpa using current
  refine ⟨same ▸ held, rfl, ?_⟩
  rw [pruneVersions_commits prune, same]

end LicoMesh.ServiceManifest

import LicoMesh.ServiceManifest.Integrity

namespace LicoMesh.ServiceManifest

open Library Transaction

variable {input : ManifestCommitInput} {clock : CommitClock} {error : ManifestError}

def ManifestError.OfResources (error : ManifestError) : Prop :=
  error ∉ [.replayConflict, .serviceRevisionStale, .setRevisionStale, .constraintPrimaryKey,
    .acknowledgementStale]

open ManifestError

instance (error : ManifestError) : Decidable error.OfResources :=
  inferInstanceAs (Decidable (_ ∉ _))

variable {context : ManifestTransactionContext} {session : Session}

theorem raises_require (h : error.OfResources) :
    (require condition error).Raises session OfResources := by
  unfold require
  split
  · exact raises_pure
  · exact raises_throw h

theorem raises_contextCheck : context.check.Raises session OfResources := by
  refine raises_bind raises_get ?_
  intro _ _ _
  split
  · exact raises_throw (by decide)
  · exact raises_set

theorem raises_consumeWrite : (context.consumeWrite byteCount).Raises session OfResources := by
  refine raises_bind raises_contextCheck ?_
  intro _ _ _
  refine raises_bind raises_get ?_
  intro _ _ _
  split
  · exact raises_throw (by decide)
  · exact raises_set

theorem raises_inspectCleanupEntry : context.inspectCleanupEntry.Raises session OfResources := by
  refine raises_bind raises_contextCheck ?_
  intro _ _ _
  refine raises_bind raises_get ?_
  intro _ _ _
  split
  · exact raises_throw (by decide)
  · exact raises_set

theorem ofResources_numberMeta (failed : numberMeta value = .error error) : error.OfResources := by
  unfold numberMeta at failed
  split at failed
  · cases failed
  · cases failed
    decide

theorem ofResources_overCapacity
    (failed : overCapacity context db bytes = .error error) : error.OfResources := by
  unfold overCapacity at failed
  cases requestCount : numberMeta db.metadata.requestCount with
  | error e =>
    rw [requestCount] at failed
    cases failed
    exact ofResources_numberMeta requestCount
  | ok count =>
    rw [requestCount] at failed
    cases requestBytes : numberMeta db.metadata.requestBytes with
    | error e =>
      rw [requestBytes] at failed
      cases failed
      exact ofResources_numberMeta requestBytes
    | ok total =>
      rw [requestBytes] at failed
      cases failed

theorem raises_pruneRequests :
    (pruneRequests context bytes cutoff remaining).Raises session OfResources := by
  induction remaining generalizing session with
  | zero => exact raises_pure
  | succ remaining induction =>
    refine raises_bind raises_get ?_
    intro _ _ _
    refine raises_bind (raises_check fun _ => ofResources_overCapacity) ?_
    intro _ _ _
    split
    · exact raises_pure
    · refine raises_bind raises_inspectCleanupEntry ?_
      intro _ _ _
      refine raises_bind raises_modify ?_
      intro _ _ _
      exact induction

theorem raises_recordRequest :
    (recordRequest context input outcome clock).Raises session OfResources := by
  refine raises_bind (raises_require (by decide)) ?_
  intro _ _ _
  refine raises_bind raises_pruneRequests ?_
  intro _ _ _
  refine raises_bind raises_get ?_
  intro _ _ _
  refine raises_bind (raises_check fun _ => ofResources_overCapacity) ?_
  intro _ _ _
  refine raises_bind (raises_require (by decide)) ?_
  intro _ _ _
  refine raises_bind raises_consumeWrite ?_
  intro _ _ _
  exact raises_modify

theorem raises_writeBlob : (writeBlob context input).Raises session OfResources := by
  refine raises_bind raises_get ?_
  intro _ _ _
  split
  · exact raises_require (by decide)
  · refine raises_bind raises_consumeWrite ?_
    intro _ _ _
    exact raises_modify

def Database.serviceRevision (db : Database) (serviceId : ServiceId) : Nat :=
  ((db.services.find? serviceId).map (·.serviceRevision)).getD 0

def ExpectsCurrent (db : Database) (input : ManifestCommitInput) : Prop :=
  input.expectedServiceRevision = db.serviceRevision input.serviceId ∧
    input.expectedSetRevision = db.metadata.candidate.setRevision

instance (db : Database) (input : ManifestCommitInput) : Decidable (ExpectsCurrent db input) :=
  inferInstanceAs (Decidable (_ ∧ _))

variable {db : Database} {env : ManifestEnv} {input : ManifestCommitInput} {admitted : Admitted}

theorem Admits.expectsCurrent (admits : Admits db input admitted) : ExpectsCurrent db input := by
  refine ⟨?_, admits.setRevision⟩
  rw [admits.serviceRevision, Admitted.actualServiceRevision, admits.existingService]
  rfl

theorem ofResources_pointerFromMeta
    (failed : pointerFromMeta pointer = .error error) : error.OfResources := by
  unfold pointerFromMeta at failed
  cases read : numberMeta (pointer.setRevision : Int) with
  | error e =>
    rw [read] at failed
    cases failed
    exact ofResources_numberMeta read
  | ok value =>
    rw [read] at failed
    cases failed

theorem ofResources_compareRevisions (expects : ExpectsCurrent db input)
    (failed : compareRevisions db input = .error error) : error.OfResources := by
  unfold compareRevisions at failed
  cases candidate : pointerFromMeta db.metadata.candidate with
  | error e =>
    rw [candidate] at failed
    cases failed
    exact ofResources_pointerFromMeta candidate
  | ok read =>
    obtain rfl := pointerFromMeta_ok candidate
    rw [candidate] at failed
    cases published : pointerFromMeta db.metadata.published with
    | error e =>
      rw [published] at failed
      cases failed
      exact ofResources_pointerFromMeta published
    | ok read =>
      rw [published] at failed
      obtain ⟨service, set⟩ := expects
      have current : input.expectedServiceRevision = Admitted.actualServiceRevision
          ⟨db.metadata.candidate, read, db.services.find? input.serviceId⟩ := service
      simp only [bind, Except.bind, ← current, set, ne_eq, not_true_eq_false, if_false] at failed
      cases failed

theorem ofResources_checkLimits (failed : checkLimits context db input admitted = .error error) :
    error.OfResources := by
  unfold checkLimits at failed
  cases counted : checkServiceCount context db admitted with
  | error e =>
    rw [counted] at failed
    cases failed
    unfold checkServiceCount at counted
    split at counted
    · cases counted
    · cases read : numberMeta db.metadata.serviceCount with
      | error e =>
        rw [read] at counted
        cases counted
        exact ofResources_numberMeta read
      | ok serviceCount =>
        rw [read] at counted
        simp only [bind, Except.bind] at counted
        split at counted
        · cases counted
          decide
        · cases counted
  | ok _ =>
    rw [counted] at failed
    simp only [bind, Except.bind, checkBacklog] at failed
    split at failed
    · cases failed
      decide
    · cases failed

theorem Versioned.insertVersion_ne_none (versioned : Versioned db)
    (admits : Admits db input admitted) (changed : admitted.unchanged input = false)
    (bytes : List UInt8) : (if admitted.existingService.isSome = true then
        (db.insertBlob input.manifestDigest bytes).closeVersions input.serviceId
          (admitted.setRevision input)
      else db.insertBlob input.manifestDigest bytes).insertVersion
        (publishedVersion input admitted) ≠ none := by
  have next := admits.setRevision_changed changed
  intro conflict
  obtain ⟨row, member, key⟩ := Table.exists_of_insert?_eq_none (Option.map_eq_none_iff.mp conflict)
  have revision : row.validFromRevision = admitted.setRevision input := congrArg Prod.snd key
  have old : ∃ u ∈ db.versions.rows, u.validFromRevision = row.validFromRevision := by
    split at member
    · obtain ⟨u, present, rfl⟩ := List.mem_map.mp member
      refine ⟨u, present, ?_⟩
      split <;> rfl
    · exact ⟨row, member, rfl⟩
  obtain ⟨u, present, same⟩ := old
  have bounds := versioned.assigned u present
  omega

theorem raises_writeVersion (versioned : Versioned session.db)
    (admits : Admits session.db input admitted) (changed : admitted.unchanged input = false) :
    (writeVersion env context input admitted).Raises session OfResources := by
  refine raises_bind raises_writeBlob ?_
  intro _ stored write
  have same := writeBlob_commits write
  refine raises_bind raises_modify ?_
  intro _ closed close
  obtain rfl := commits_update.mp close
  refine raises_bind raises_get ?_
  intro _ _ reading
  obtain ⟨rfl, rfl⟩ := commits_get.mp reading
  split
  · rename_i conflict
    rw [same] at conflict
    exact absurd conflict (versioned.insertVersion_ne_none admits changed input.manifestBytes)
  · refine raises_bind raises_set ?_
    intro _ _ _
    refine raises_bind raises_modify ?_
    intro _ _ _
    exact raises_modify

theorem raises_commitManifest (versioned : Versioned session.db)
    (unknown : session.db.requestOf input.requestDigest = none)
    (expects : ExpectsCurrent session.db input) :
    (commitManifest env context input clock).Raises session OfResources := by
  refine raises_bind raises_contextCheck ?_
  intro _ once first
  refine raises_bind raises_contextCheck ?_
  intro _ checked second
  refine raises_bind raises_get ?_
  intro _ _ reading
  obtain ⟨rfl, rfl⟩ := commits_get.mp reading
  have same : checked.db = session.db := (db_of_check second).trans (db_of_check first)
  split
  · rename_i row found
    rw [same, unknown] at found
    cases found
  · unfold applyManifest
    refine raises_bind raises_get ?_
    intro _ _ reading
    obtain ⟨rfl, rfl⟩ := commits_get.mp reading
    rw [same]
    refine raises_bind (raises_check fun _ => ofResources_compareRevisions expects) ?_
    intro admitted _ compared
    obtain ⟨compare, rfl⟩ := commits_check.mp compared
    refine raises_bind (raises_check fun _ => ofResources_checkLimits) ?_
    intro _ _ limited
    obtain ⟨-, rfl⟩ := commits_check.mp limited
    refine raises_bind ?_ ?_
    · unfold writeManifest
      split
      · exact raises_pure
      · rename_i changed
        apply raises_writeVersion
        · rw [same]
          exact versioned
        · rw [same]
          exact compareRevisions_ok compare
        · simpa using changed
    · intro _ _ _
      refine raises_bind raises_recordRequest ?_
      intro _ _ _
      exact raises_pure

end LicoMesh.ServiceManifest

import LicoMesh.Library.Path
import LicoMesh.ServiceManifest.Refusals

namespace LicoMesh.ServiceManifest

open Library Transaction

/-! Runs of commits and acknowledgements from any number of processes. An immediate transaction
holds the write lock, so each call is one step. -/

variable {result : ManifestCommitResult}

inductive Call
  | commitManifest (context : ManifestTransactionContext) (input : ManifestCommitInput)
      (clock : CommitClock)
  | acknowledgePublished (context : ManifestTransactionContext) (pointer : ManifestPointer)

namespace Database

variable (env : ManifestEnv) (db : Database)

def commit (context : ManifestTransactionContext) (input : ManifestCommitInput)
    (clock : CommitClock) : Except ManifestError ManifestCommitResult :=
  (commitManifest env context input clock { db := db }).map Prod.fst

def step : Call → Database
  | .commitManifest context input clock =>
    ((commitManifest env context input clock).applied { db := db }).db
  | .acknowledgePublished context pointer =>
    ((acknowledgePublished context pointer).applied { db := db }).db

abbrev run (calls : List Call) : Database := runAll (step env) db calls

def assigned : Call → Option Nat
  | .commitManifest context input clock =>
    match db.commit env context input clock with
    | .ok result => if result.changed then some result.outcome.setRevision else none
    | .error _ => none
  | .acknowledgePublished _ _ => none

def assignedRevisions : Database → List Call → List Nat
  | _, [] => []
  | db, call :: rest =>
    (db.assigned env call).toList ++ assignedRevisions (db.step env call) rest

end Database

variable {env : ManifestEnv} {db : Database} {context : ManifestTransactionContext}
  {input : ManifestCommitInput} {clock : CommitClock}

theorem step_commit_error (failed : db.commit env context input clock = .error error) :
    db.step env (.commitManifest context input clock) = db ∧
      commitManifest env context input clock { db := db } = .error error := by
  unfold Database.commit at failed
  cases outcome : commitManifest env context input clock { db := db } with
  | error e =>
    rw [outcome] at failed
    cases failed
    exact ⟨by simp [Database.step, applied, outcome], rfl⟩
  | ok pair =>
    rw [outcome] at failed
    cases failed

variable (ok : db.commit env context input clock = .ok result)

include ok in
theorem step_commit_ok :
    ∃ next, (commitManifest env context input clock).Commits { db := db } result next ∧
      db.step env (.commitManifest context input clock) = next.db := by
  unfold Database.commit at ok
  cases outcome : commitManifest env context input clock { db := db } with
  | error e =>
    rw [outcome] at ok
    cases ok
  | ok pair =>
    obtain ⟨value, next⟩ := pair
    rw [outcome] at ok
    cases ok
    exact ⟨next, outcome, by simp [Database.step, applied, outcome]⟩

structure Applied (env : ManifestEnv) (db : Database) (context : ManifestTransactionContext)
    (input : ManifestCommitInput) (clock : CommitClock) (result : ManifestCommitResult)
    (admitted : Admitted) (written pruned : Database) : Prop where
  unknown : ∀ row ∈ db.requests.rows, row.outcome.requestDigest ≠ input.requestDigest
  admits : Admits db input admitted
  room : admitted.unchanged input = false → admitted.candidate.setRevision <
    admitted.published.setRevision + maxUnpublishedSetRevisions
  unchanged : admitted.unchanged input = true → written = db
  changed : admitted.unchanged input = false → Published db env input admitted written
  prunes : RequestsPruned written pruned
  returned : result =
    { outcome := requestOutcome env input (admitted.serviceRevision input)
        (admitted.setRevision input) (admitted.setDigest env input)
      replayed := false
      changed := !admitted.unchanged input }
  next : db.step env (.commitManifest context input clock) =
    pruned.insertRequest result.outcome clock.createdAtMs (recordBytes result.outcome input)

include ok in
theorem commit_cases : (∃ row ∈ db.requests.rows, row.outcome.requestDigest = input.requestDigest ∧
      requestMatches row.outcome input = true ∧
        result = { outcome := row.outcome, replayed := true, changed := false } ∧
          db.step env (.commitManifest context input clock) = db) ∨
      ∃ admitted written pruned, Applied env db context input clock result admitted written
        pruned := by
  obtain ⟨next, commits, stepped⟩ := step_commit_ok ok
  obtain ⟨row, found, matching, rfl, same⟩ | ⟨unknown, admitted, written, pruned, compare, limits,
    write, prune, rfl, inserted⟩ := commitManifest_commits commits
  · refine .inl ⟨row, List.mem_of_find?_eq_some found, ?_, matching, rfl, stepped.trans same⟩
    simpa using List.find?_some found
  · refine .inr ⟨admitted, written, pruned, ?_, compareRevisions_ok compare,
      checkLimits_ok limits, ?_, ?_, prune, rfl, stepped.trans inserted⟩
    · intro row member same
      have differs := List.find?_eq_none.mp unknown row member
      exact differs (by simpa using same)
    · intro unchanged
      rw [if_pos unchanged] at write
      exact write
    · intro changed
      rw [if_neg (by simp [changed])] at write
      exact publish_eq write

theorem step_acknowledge (env : ManifestEnv) (db : Database)
    (context : ManifestTransactionContext) (pointer : ManifestPointer) :
    db.step env (.acknowledgePublished context pointer) = db ∨
      db.step env (.acknowledgePublished context pointer) =
        (db.obsoleteVersions db.metadata.candidate.setRevision
          context.budget.maxCleanupEntries).foldl .pruneVersion
            (db.setPublished db.metadata.candidate) := by
  obtain ⟨result, commits⟩ | same :=
    applied_cases (acknowledgePublished context pointer) { db := db }
  · obtain ⟨candidate, -, next⟩ := acknowledgePublished_commits commits
    refine .inr (next.trans ?_)
    rw [← candidate]
  · refine .inl ?_
    simp only [Database.step, same]

namespace Applied

variable {result : ManifestCommitResult} {admitted : Admitted} {written pruned : Database}
  (applied : Applied env db context input clock result admitted written pruned)
include applied

theorem versioned
    (versioned : Versioned db) : Versioned (db.step env (.commitManifest context input clock)) := by
  rw [applied.next]
  apply Versioned.congr _ (sameManifests_insertRequest ..)
  apply Versioned.congr _ applied.prunes.sameManifests
  cases unchanged : admitted.unchanged input with
  | true =>
    rw [applied.unchanged unchanged]
    exact versioned
  | false =>
    exact versioned.publish applied.admits unchanged (applied.room unchanged)
      (applied.changed unchanged)

theorem requests : written.requests = db.requests ∧ written.nextSequence = db.nextSequence := by
  cases unchanged : admitted.unchanged input with
  | true =>
    rw [applied.unchanged unchanged]
    exact ⟨rfl, rfl⟩
  | false =>
    have published := applied.changed unchanged
    exact ⟨published.requests, published.nextSequence⟩

theorem countedPruned (counted : Counted db) : Counted pruned := by
  apply applied.prunes.counted
  cases unchanged : admitted.unchanged input with
  | true =>
    rw [applied.unchanged unchanged]
    exact counted
  | false => exact counted.publish (applied.changed unchanged)

theorem counted
    (counted : Counted db) : Counted (db.step env (.commitManifest context input clock)) := by
  rw [applied.next]
  apply (applied.countedPruned counted).insertRequest
  intro row member
  have present := applied.prunes.subset row member
  rw [applied.requests.1] at present
  rw [applied.returned]
  exact applied.unknown row present

theorem candidate :
    (db.step env (.commitManifest context input clock)).metadata.candidate.setRevision =
      db.metadata.candidate.setRevision + if result.changed then 1 else 0 := by
  rw [applied.next, (sameManifests_insertRequest ..).candidate,
    applied.prunes.sameManifests.candidate, applied.returned]
  cases unchanged : admitted.unchanged input with
  | true =>
    rw [applied.unchanged unchanged]
    rfl
  | false =>
    rw [(applied.changed unchanged).candidate]
    exact applied.admits.setRevision_changed unchanged

theorem rows (counted : Counted db)
    (member : row ∈ (db.step env (.commitManifest context input clock)).requests.rows) :
    row ∈ db.requests.rows ∨ row.sequence = db.nextSequence ∧ row.outcome = result.outcome := by
  rw [applied.next, rows_insertRequest (applied.countedPruned counted)] at member
  obtain kept | own := List.mem_append.mp member
  · have present := applied.prunes.subset row kept
    rw [applied.requests.1] at present
    exact .inl present
  · obtain rfl := List.mem_singleton.mp own
    refine .inr ⟨?_, rfl⟩
    rw [applied.prunes.nextSequence, applied.requests.2]

theorem nextSequence :
    (db.step env (.commitManifest context input clock)).nextSequence = db.nextSequence + 1 := by
  rw [applied.next, ← applied.requests.2, ← applied.prunes.nextSequence]
  rfl

end Applied

end LicoMesh.ServiceManifest
